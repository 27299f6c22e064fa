import Mathlib.Data.Finset.Card
import RichText.FileSystem.Resolve
import RichText.FileSystem.Way

/-!
# Proofs/Way — resolving a path finds where it leads

    names ──one by one──▸ target of a link ++ names behind it ──▸ place

A way along two runs of names is a way along the first and one from its end along the second
(`Leads.split`), so resolving the target of a link by itself, and keeping what it has led to, leads to
the same place (`resolveNames_of_leads`).  A link that is still being resolved is not met again: its
way would follow more links than it does.  Where resolving is complete, there is a way
(`exists_leadsTo_iff`).
-/

namespace RichText

namespace Entry

theorem at?_append (e : Entry) (p q : List Text) : e.at? (p ++ q) = (e.at? p).bind (·.at? q) := by
  induction p generalizing e with
  | nil => rfl
  | cons n rest ih =>
    rw [List.cons_append, at?, at?]
    cases e.child? n with
    | none => rfl
    | some c => exact ih c

theorem at?_concat (e : Entry) (p : List Text) (n : Text) :
    e.at? (p ++ [n]) = (e.at? p).bind (·.child? n) := by
  rw [at?_append]
  congr 1
  funext c
  rw [at?]
  cases c.child? n <;> rfl

/-- What is above an entry is a directory. -/
theorem exists_directory_of_at? {e c : Entry} {p q : List Text} {n : Text}
    (h : e.at? (p ++ n :: q) = some c) : ∃ entries, e.at? p = some (.directory entries) := by
  rw [at?_append] at h
  obtain ⟨d, hd, h⟩ := Option.bind_eq_some_iff.mp h
  cases d with
  | directory entries => exact ⟨entries, hd⟩
  | file content => cases h
  | link target => cases h

end Entry

namespace FileSystem

variable {root : Entry} {links : Nat} {here rest place : List Text}

/-! ## Ways -/

/-- A name passes the tests for names that stand for no entry. -/
theorem IsName.tests {n : Text} (h : IsName n) :
    (n.isEmpty || n == [.char '.']) = false ∧ (n == [.char '.', .char '.']) = false := by
  have hempty : n.isEmpty = false := by cases n with
    | nil => exact absurd rfl h.1
    | cons c rest => rfl
  rw [hempty, beq_eq_false_iff_ne.mpr h.2.1, beq_eq_false_iff_ne.mpr h.2.2.1]
  exact ⟨rfl, rfl⟩

/-- **A place above which there is no link**, and that is none itself. -/
def HasNoLink (root : Entry) (place : List Text) : Prop :=
  ∀ p, p <+: place → ∀ target, root.at? p ≠ some (.link target)

/-- A directory is reached without links. -/
theorem hasNoLink_of_directory {entries : List (Text × Entry)}
    (h : root.at? place = some (.directory entries)) : HasNoLink root place := by
  rintro p ⟨rest, rfl⟩ target hp
  cases rest with
  | nil => rw [List.append_nil, hp] at h; cases h
  | cons n rest =>
    obtain ⟨above, habove⟩ := Entry.exists_directory_of_at? h
    rw [hp] at habove
    cases habove

theorem HasNoLink.nil (h : HasNoLink root here) : HasNoLink root [] :=
  fun p hp => h p (hp.trans List.nil_prefix)

theorem HasNoLink.linkStart (h : HasNoLink root here) (target : Text) :
    HasNoLink root (linkStart here target) := by
  rw [FileSystem.linkStart]
  split
  · exact h.nil
  · exact h

/-- **There is no link above the place that names lead to.** -/
theorem Leads.hasNoLink (h : Leads root links here rest place) (hhere : HasNoLink root here) :
    HasNoLink root place := by
  induction h with
  | done => exact hhere
  | stay hn h ih => exact ih hhere
  | up h ih => exact ih fun p hp => hhere p (hp.trans (List.dropLast_prefix _))
  | enter hn hlink h ih =>
    refine ih fun p hp => ?_
    rcases List.prefix_concat_iff.mp hp with rfl | hp
    · exact hlink
    · exact hhere p hp
  | link hn hlink h ih => exact ih (hhere.linkStart _)

/-- The place that names lead to is given by names. -/
theorem Leads.isName (h : Leads root links here rest place) (hhere : ∀ n ∈ here, IsName n) :
    ∀ n ∈ place, IsName n := by
  induction h with
  | done => exact hhere
  | stay hn h ih => exact ih hhere
  | up h ih => exact ih fun n hn => hhere n (List.mem_of_mem_dropLast hn)
  | enter hn hlink h ih =>
    refine ih fun m hm => ?_
    rcases List.mem_append.mp hm with hm | hm
    · exact hhere m hm
    · exact List.mem_singleton.mp hm ▸ hn
  | link hn hlink h ih =>
    refine ih fun m hm => ?_
    rw [linkStart] at hm
    split at hm
    · exact absurd hm List.not_mem_nil
    · exact hhere m hm

/-! One more name, by what it is. -/

theorem Leads.of_stay {n : Text} (hn : n = [] ∨ n = [.char '.'])
    (h : Leads root links here (n :: rest) place) : Leads root links here rest place := by
  cases h with
  | stay _ h => exact h
  | up _ => exact absurd hn (by decide)
  | enter hn' _ _ => exact (hn.elim hn'.1 hn'.2.1).elim
  | link hn' _ _ => exact (hn.elim hn'.1 hn'.2.1).elim

theorem Leads.of_up (h : Leads root links here ([.char '.', .char '.'] :: rest) place) :
    Leads root links here.dropLast rest place := by
  cases h with
  | stay hn _ => exact absurd hn (by decide)
  | up h => exact h
  | enter hn' _ _ => exact (hn'.2.2.1 rfl).elim
  | link hn' _ _ => exact (hn'.2.2.1 rfl).elim

theorem Leads.of_enter {n : Text} (hn : IsName n)
    (hlink : ∀ target, root.at? (here ++ [n]) ≠ some (.link target))
    (h : Leads root links here (n :: rest) place) : Leads root links (here ++ [n]) rest place := by
  cases h with
  | stay hn' _ => exact (hn'.elim hn.1 hn.2.1).elim
  | up _ => exact (hn.2.2.1 rfl).elim
  | enter _ _ h => exact h
  | link _ hlink' _ => exact (hlink _ hlink').elim

theorem Leads.of_link {n target : Text} (hn : IsName n)
    (hlink : root.at? (here ++ [n]) = some (.link target))
    (h : Leads root links here (n :: rest) place) :
    ∃ k, links = k + 1 ∧ Leads root k (FileSystem.linkStart here target)
      (List.splitOn (.char '/') target ++ rest) place := by
  cases h with
  | stay hn' _ => exact (hn'.elim hn.1 hn.2.1).elim
  | up _ => exact (hn.2.2.1 rfl).elim
  | enter _ hlink' _ => exact (hlink' _ hlink).elim
  | link _ hlink' h =>
    rw [hlink] at hlink'
    cases hlink'
    exact ⟨_, rfl, h⟩

/-- **Names lead to one place**, and along as many links. -/
theorem Leads.unique {links' : Nat} {place' : List Text} (h : Leads root links here rest place)
    (h' : Leads root links' here rest place') : links' = links ∧ place' = place := by
  induction h generalizing links' place' with
  | done => cases h'; exact ⟨rfl, rfl⟩
  | stay hn h ih => exact ih (h'.of_stay hn)
  | up h ih => exact ih h'.of_up
  | enter hn hlink h ih => exact ih (h'.of_enter hn hlink)
  | link hn hlink h ih =>
    obtain ⟨k, rfl, hk⟩ := h'.of_link hn hlink
    exact (ih hk).imp_left (congrArg (· + 1))

/-- A way with no names in front stays where it is, and goes on from there. -/
theorem Leads.split_nil {ys : List Text} (h : Leads root links here ys place) :
    ∃ i j mid, links = i + j ∧ Leads root i here [] mid ∧ Leads root j mid ys place :=
  ⟨0, links, here, (Nat.zero_add links).symm, .done, h⟩

/-- **A way along two runs of names**: one along the first, and one from there along the second. -/
theorem Leads.split {xs ys : List Text} (h : Leads root links here (xs ++ ys) place) :
    ∃ i j mid, links = i + j ∧ Leads root i here xs mid ∧ Leads root j mid ys place := by
  generalize hrest : xs ++ ys = rest at h
  induction h generalizing xs with
  | done =>
    obtain ⟨rfl, rfl⟩ := List.append_eq_nil_iff.mp hrest
    exact split_nil .done
  | stay hn h ih =>
    cases xs <;> cases hrest
    · exact split_nil (.stay hn h)
    · obtain ⟨i, j, mid, rfl, hi, hj⟩ := ih rfl
      exact ⟨i, j, mid, rfl, .stay hn hi, hj⟩
  | up h ih =>
    cases xs <;> cases hrest
    · exact split_nil (.up h)
    · obtain ⟨i, j, mid, rfl, hi, hj⟩ := ih rfl
      exact ⟨i, j, mid, rfl, .up hi, hj⟩
  | enter hn hlink h ih =>
    cases xs <;> cases hrest
    · exact split_nil (.enter hn hlink h)
    · obtain ⟨i, j, mid, rfl, hi, hj⟩ := ih rfl
      exact ⟨i, j, mid, rfl, .enter hn hlink hi, hj⟩
  | link hn hlink h ih =>
    cases xs <;> cases hrest
    · exact split_nil (.link hn hlink h)
    · obtain ⟨i, j, mid, rfl, hi, hj⟩ := ih (List.append_assoc _ _ _)
      exact ⟨i + 1, j, mid, Nat.add_right_comm i j 1, .link hn hlink hi, hj⟩

/-- **Two ways, one behind the other**, are a way along the names of both. -/
theorem Leads.join {i j : Nat} {xs ys mid : List Text} (h : Leads root i here xs mid)
    (h' : Leads root j mid ys place) : Leads root (i + j) here (xs ++ ys) place := by
  induction h with
  | done => rwa [Nat.zero_add]
  | stay hn _ ih => exact .stay hn (ih h')
  | up _ ih => exact .up (ih h')
  | enter hn hlink _ ih => exact .enter hn hlink (ih h')
  | link hn hlink _ ih =>
    rw [Nat.add_right_comm]
    exact .link hn hlink (List.append_assoc _ _ _ ▸ ih h')

/-- A link leads to a place by itself, without names behind it. -/
def LinkLeads (root : Entry) (links : Nat) (link place : List Text) : Prop :=
  ∃ target, root.at? link = some (.link target)
    ∧ Leads root links (linkStart link.dropLast target) (List.splitOn (.char '/') target) place

/-- A link leads to one place, by one number of links. -/
theorem LinkLeads.unique {links' : Nat} {link place' : List Text}
    (h : LinkLeads root links link place) (h' : LinkLeads root links' link place') :
    links' = links ∧ place' = place := by
  obtain ⟨target, ht, h⟩ := h
  obtain ⟨target', ht', h'⟩ := h'
  rw [ht] at ht'
  cases ht'
  exact h.unique h'

/-- A way that goes on through a link: the way of the link, and one from its end. -/
theorem Leads.split_link {n target : Text} (hn : IsName n)
    (hlink : root.at? (here ++ [n]) = some (.link target))
    (h : Leads root links here (n :: rest) place) :
    ∃ i j mid, links = i + j + 1 ∧ LinkLeads root i (here ++ [n]) mid
      ∧ Leads root j mid rest place := by
  obtain ⟨k, rfl, hk⟩ := h.of_link hn hlink
  obtain ⟨i, j, mid, rfl, hi, hj⟩ := hk.split
  refine ⟨i, j, mid, rfl, ⟨target, hlink, ?_⟩, hj⟩
  rwa [List.dropLast_concat]

/-- A name that is a link counts as one more link, behind which the way goes on. -/
theorem LinkLeads.join {i j : Nat} {n : Text} {mid : List Text} (hn : IsName n)
    (h : LinkLeads root i (here ++ [n]) mid) (h' : Leads root j mid rest place) :
    Leads root (i + j + 1) here (n :: rest) place := by
  obtain ⟨target, hlink, h⟩ := h
  rw [List.dropLast_concat] at h
  exact .link hn hlink (h.join h')

/-! ## The links of a file system -/

mutual

/-- The places of all links below an entry that is at a place. -/
def linkPlaces (place : List Text) : Entry → List (List Text)
  | .file _ => []
  | .link _ => [place]
  | .directory entries => linkPlacesAll place entries

/-- The places of all links below entries of a directory. -/
def linkPlacesAll (place : List Text) : List (Text × Entry) → List (List Text)
  | [] => []
  | (n, e) :: rest => linkPlaces (place ++ [n]) e ++ linkPlacesAll place rest

end

mutual

/-- As many places hold a link as there are links. -/
theorem length_linkPlaces (place : List Text) (e : Entry) :
    (linkPlaces place e).length = linkCount e := by
  match e with
  | .file _ => rw [linkPlaces, linkCount]; rfl
  | .link _ => rw [linkPlaces, linkCount]; rfl
  | .directory entries => rw [linkPlaces, linkCount, length_linkPlacesAll]

theorem length_linkPlacesAll (place : List Text) (entries : List (Text × Entry)) :
    (linkPlacesAll place entries).length = linkCountAll entries := by
  match entries with
  | [] => rw [linkPlacesAll, linkCountAll]; rfl
  | (n, e) :: rest =>
    rw [linkPlacesAll, linkCountAll, List.length_append, length_linkPlaces, length_linkPlacesAll]

end

theorem linkPlaces_subset_all {n : Text} {e : Entry} {entries : List (Text × Entry)}
    (h : (n, e) ∈ entries) (place : List Text) :
    linkPlaces (place ++ [n]) e ⊆ linkPlacesAll place entries := by
  induction entries with
  | nil => exact absurd h List.not_mem_nil
  | cons x rest ih =>
    rw [linkPlacesAll]
    rcases List.mem_cons.mp h with rfl | h
    · exact List.subset_append_left _ _
    · exact List.Subset.trans (ih h) (List.subset_append_right _ _)

/-- Every link that is found below an entry is in one of its places. -/
theorem mem_linkPlaces {e : Entry} {above p : List Text} {target : Text}
    (h : e.at? p = some (.link target)) : above ++ p ∈ linkPlaces above e := by
  induction p generalizing e above with
  | nil =>
    cases h
    rw [linkPlaces, List.append_nil]
    exact List.mem_singleton_self above
  | cons n rest ih =>
    rw [Entry.at?] at h
    cases hc : e.child? n with
    | none => rw [hc] at h; cases h
    | some c =>
      rw [hc] at h
      cases e with
      | file content => cases hc
      | link target => cases hc
      | directory entries =>
        obtain ⟨⟨m, d⟩, hfind, rfl⟩ := Option.map_eq_some_iff.mp hc
        have hm : (m == n) = true :=
          List.find?_some (p := fun x : Text × Entry => x.1 == n) hfind
        obtain rfl : m = n := eq_of_beq hm
        rw [linkPlaces, List.append_cons]
        exact linkPlaces_subset_all (List.mem_of_find?_eq_some hfind) above (ih h)

/-! ## Links seen -/

/-- What is known of a link: the place it leads to, or that this is being found out. -/
def Seen.lookup? (seen : Seen) (link : List Text) : Option (Option (List Text)) :=
  (seen.find? (·.1 == link)).map (·.2)

theorem Seen.lookup?_cons (seen : Seen) (link p : List Text) (found : Option (List Text)) :
    Seen.lookup? ((p, found) :: seen) link
      = if p = link then some found else seen.lookup? link := by
  rw [lookup?, List.find?_cons]
  by_cases h : p = link
  · rw [if_pos h, h, beq_self_eq_true]
    rfl
  · rw [if_neg h, beq_eq_false_iff_ne.mpr h]
    rfl

/-- The places known of links are those that the links lead to. -/
def Seen.IsRight (root : Entry) (seen : Seen) : Prop :=
  ∀ link place, seen.lookup? link = some (some place) → ∃ i, LinkLeads root i link place

/-- **What is right about links seen** while names are resolved on whose way there are `links` links: the
places known are right, and no link that is still being resolved can be on that way. -/
structure Seen.Agrees (root : Entry) (links : Nat) (seen : Seen) : Prop where
  known : seen.IsRight root
  pending {link place : List Text} {i : Nat} (h : seen.lookup? link = some none)
    (hl : LinkLeads root i link place) : links ≤ i

/-- **What resolving changes** about the links seen: more of them are known, rightly so, and none more is
still being resolved. -/
structure Seen.Extends (root : Entry) (seen later : Seen) : Prop where
  known : later.IsRight root
  pending {link : List Text} (h : later.lookup? link = some none) : seen.lookup? link = some none
  kept {link : List Text} (h : later.lookup? link = none) : seen.lookup? link = none

namespace Seen

variable {seen later last : Seen} {link : List Text}

theorem Agrees.refl (h : Agrees root links seen) : Extends root seen seen := ⟨h.known, id, id⟩

theorem Extends.trans (h : Extends root seen later) (h' : Extends root later last) :
    Extends root seen last :=
  ⟨h'.known, fun hl => h.pending (h'.pending hl), fun hl => h.kept (h'.kept hl)⟩

/-- What is known still agrees when more is known, with fewer links to go through. -/
theorem Agrees.extend {i : Nat} (h : Agrees root links seen) (h' : Extends root seen later)
    (hi : i ≤ links) : Agrees root i later :=
  ⟨h'.known, fun hl hlink => hi.trans (h.pending (h'.pending hl) hlink)⟩

theorem isRight_nil : IsRight root [] := fun _ _ h => nomatch h

theorem agrees_nil (root : Entry) (links : Nat) : Agrees root links [] :=
  ⟨isRight_nil, fun h => nomatch h⟩

/-- A link that is being followed leads nowhere yet, which is no claim about it. -/
theorem IsRight.begin (h : IsRight root seen) (link : List Text) :
    IsRight root ((link, none) :: seen) := by
  intro l p hp
  rw [lookup?_cons] at hp
  split at hp
  · cases hp
  · exact h l p hp

/-- A link that has been followed leads where it was found to. -/
theorem IsRight.finish {i : Nat} (h : IsRight root seen) (hl : LinkLeads root i link place) :
    IsRight root ((link, some place) :: seen) := by
  intro l p hp
  rw [lookup?_cons] at hp
  split at hp
  · next heq => cases hp; exact ⟨i, heq ▸ hl⟩
  · exact h l p hp

/-- A link begins to be resolved: its own way has no more links than it has. -/
theorem Agrees.begin {i : Nat} (h : Agrees root links seen) (hi : i ≤ links)
    (hl : LinkLeads root i link place) : Agrees root i ((link, none) :: seen) := by
  refine ⟨h.known.begin link, fun {l p j} hp hj => ?_⟩
  rw [lookup?_cons] at hp
  split at hp
  · next heq => exact ((hl.unique (heq ▸ hj)).1).ge
  · exact hi.trans (h.pending hp hj)

/-- A link has been resolved. -/
theorem Extends.finish {i : Nat} (h : Extends root ((link, none) :: seen) later)
    (hl : LinkLeads root i link place) : Extends root seen ((link, some place) :: later) := by
  refine ⟨h.known.finish hl, fun {l} hp => ?_, fun {l} hp => ?_⟩ <;>
    rw [lookup?_cons] at hp <;> split at hp
  · cases hp
  · next hne =>
    have := h.pending hp
    rwa [lookup?_cons, if_neg hne] at this
  · cases hp
  · next hne =>
    have := h.kept hp
    rwa [lookup?_cons, if_neg hne] at this

end Seen

/-- The links of a file system that have not been seen. -/
def unseen (root : Entry) (seen : Seen) : Finset (List Text) :=
  (linkPlaces [] root).toFinset.filter fun p => seen.lookup? p = none

theorem card_unseen_nil_le (root : Entry) : (unseen root []).card ≤ linkCount root := by
  rw [← length_linkPlaces []]
  exact (Finset.card_filter_le _ _).trans (List.toFinset_card_le _)

theorem Seen.Extends.card_unseen_le {seen later : Seen} (h : Seen.Extends root seen later) :
    (unseen root later).card ≤ (unseen root seen).card :=
  Finset.card_le_card (Finset.monotone_filter_right _ fun _ _ hp => h.kept hp)

theorem unseen_cons_subset (root : Entry) (seen : Seen) (link : List Text)
    (found : Option (List Text)) :
    unseen root ((link, found) :: seen) ⊆ unseen root seen := by
  refine Finset.monotone_filter_right _ fun p _ hp => ?_
  rw [Seen.lookup?_cons] at hp
  split at hp
  · cases hp
  · exact hp

/-- A link that begins to be resolved has been seen. -/
theorem card_unseen_cons_lt {seen : Seen} {link : List Text} {target : Text}
    (hlink : root.at? link = some (.link target)) (h : seen.lookup? link = none)
    (found : Option (List Text)) :
    (unseen root ((link, found) :: seen)).card < (unseen root seen).card := by
  have hsub := unseen_cons_subset root seen link found
  refine Finset.card_lt_card (Finset.ssubset_iff_subset_ne.mpr ⟨hsub, fun heq => ?_⟩)
  have hmem : link ∈ unseen root seen :=
    Finset.mem_filter.mpr ⟨List.mem_toFinset.mpr (mem_linkPlaces hlink), h⟩
  rw [← heq, unseen, Finset.mem_filter, Seen.lookup?_cons, if_pos rfl] at hmem
  cases hmem.2

/-! ## Resolving -/

section Resolving

variable {budget : Nat} {seen : Seen} {n : Text}

theorem resolveNames_nil : resolveNames root budget seen here [] = ⟨here, true, seen⟩ := by
  rw [resolveNames]

theorem resolveNames_stay (hn : n = [] ∨ n = [.char '.']) :
    resolveNames root budget seen here (n :: rest) = resolveNames root budget seen here rest := by
  rw [resolveNames]
  obtain rfl | rfl := hn <;> exact if_pos rfl

theorem resolveNames_up : resolveNames root budget seen here ([.char '.', .char '.'] :: rest)
    = resolveNames root budget seen here.dropLast rest := by
  rw [resolveNames]
  rfl

theorem resolveNames_name (hn : IsName n) : resolveNames root budget seen here (n :: rest)
    = match root.at? (here ++ [n]) with
      | some (.link target) => match seen.find? (·.1 == here ++ [n]) with
        | some (_, some names) => resolveNames root budget seen names rest
        | some (_, none) => ⟨withRest (here ++ [n]) rest, false, seen⟩
        | none => match budget with
          | 0 => ⟨withRest (here ++ [n]) rest, false, seen⟩
          | budget + 1 =>
            let inner := resolveNames root budget ((here ++ [n], none) :: seen)
              (linkStart here target) (List.splitOn (.char '/') target)
            if inner.complete then
              resolveNames root budget ((here ++ [n], some inner.names) :: inner.seen) inner.names
                rest
            else ⟨withRest inner.names rest, false, inner.seen⟩
      | _ => resolveNames root budget seen (here ++ [n]) rest := by
  rw [resolveNames, hn.tests.1, hn.tests.2]
  rfl

theorem resolveNames_enter (hn : IsName n)
    (hlink : ∀ target, root.at? (here ++ [n]) ≠ some (.link target)) :
    resolveNames root budget seen here (n :: rest)
      = resolveNames root budget seen (here ++ [n]) rest := by
  rw [resolveNames_name hn]
  split
  · next target h => exact absurd h (hlink target)
  · rfl

/-- **Resolving finds where names lead**, and keeps only what is right about the links it sees. -/
theorem resolveNames_of_leads (h : Leads root links here rest place)
    (hseen : seen.Agrees root links) (hbudget : (unseen root seen).card < budget) :
    ∃ later, resolveNames root budget seen here rest = ⟨place, true, later⟩
      ∧ Seen.Extends root seen later := by
  -- The links on the way and then the names give the recursion: a link splits its way in two, each
  -- of them with fewer links.
  induction links using Nat.strongRecOn generalizing rest here place budget seen with
  | ind links ih =>
    induction rest generalizing here with
    | nil =>
      cases h
      exact ⟨seen, resolveNames_nil, hseen.refl⟩
    | cons n rest ihrest =>
      cases h with
      | stay hn h =>
        rw [resolveNames_stay hn]
        exact ihrest h
      | up h =>
        rw [resolveNames_up]
        exact ihrest h
      | enter hn hlink h =>
        rw [resolveNames_enter hn hlink]
        exact ihrest h
      | @link k _ _ _ _ target hn hlink h =>
        obtain ⟨i, j, mid, hk, hi, hj⟩ := (Leads.link hn hlink h).split_link hn hlink
        rw [resolveNames_name hn, hlink]
        dsimp only
        cases hfind : seen.find? (·.1 == here ++ [n]) with
        | some found =>
          obtain ⟨l, found⟩ := found
          have hlookup : seen.lookup? (here ++ [n]) = some found := by
            rw [Seen.lookup?, hfind]
            rfl
          cases found with
          | some names =>
            obtain ⟨i', hi'⟩ := hseen.known _ _ hlookup
            obtain ⟨-, rfl⟩ := hi.unique hi'
            exact ih j (by omega) hj (hseen.extend hseen.refl (by omega)) hbudget
          | none =>
            have := hseen.pending hlookup hi
            omega
        | none =>
          have hlookup : seen.lookup? (here ++ [n]) = none := by
            rw [Seen.lookup?, hfind]
            rfl
          obtain ⟨b, rfl⟩ : ∃ b, budget = b + 1 := Nat.exists_eq_add_one.mpr (by omega)
          have hfewer : (unseen root ((here ++ [n], none) :: seen)).card < b :=
            lt_of_lt_of_le (card_unseen_cons_lt hlink hlookup none) (Nat.le_of_lt_succ hbudget)
          obtain ⟨target', ht, hway⟩ := id hi
          rw [hlink] at ht
          cases ht
          rw [List.dropLast_concat] at hway
          obtain ⟨later, hr, hext⟩ := ih i (by omega) hway (hseen.begin (by omega) hi) hfewer
          have hfinish := hext.finish hi
          have hfewer' : (unseen root ((here ++ [n], some mid) :: later)).card < b :=
            ((Finset.card_le_card (unseen_cons_subset root later _ _)).trans
              hext.card_unseen_le).trans_lt hfewer
          obtain ⟨last, hr', hext'⟩ := ih j (by omega) hj (hseen.extend hfinish (by omega)) hfewer'
          refine ⟨last, ?_, hfinish.trans hext'⟩
          dsimp only
          rw [hr]
          exact hr'

/-- A name without slashes stands for an entry, or for none. -/
theorem name_cases (h : .char '/' ∉ n) :
    (n = [] ∨ n = [.char '.']) ∨ n = [.char '.', .char '.'] ∨ IsName n := by
  by_cases hstay : n = [] ∨ n = [.char '.']
  · exact Or.inl hstay
  by_cases hup : n = [.char '.', .char '.']
  · exact Or.inr (Or.inl hup)
  rw [not_or] at hstay
  exact Or.inr (Or.inr ⟨hstay.1, hstay.2, hup, h⟩)

/-- What a text is split at is in no part of it. -/
theorem notMem_of_mem_splitOn {c : CodePoint} {t part : Text}
    (h : part ∈ List.splitOn c t) : c ∉ part := by
  induction t generalizing part with
  | nil =>
    have hpart : part = [] := by simpa [List.splitOn] using h
    rw [hpart]
    exact List.not_mem_nil
  | cons d rest ih =>
    rw [List.splitOn, List.splitOnP_cons_eq_if_modifyHead] at h
    obtain ⟨first, others, hparts⟩ :=
      List.exists_cons_of_ne_nil (List.splitOnP_ne_nil (· == c) rest)
    rw [List.splitOn, hparts] at ih
    rw [hparts] at h
    split at h
    · rcases List.mem_cons.mp h with rfl | h
      · exact List.not_mem_nil
      · exact ih h
    · next hd =>
      rw [List.modifyHead_cons] at h
      rcases List.mem_cons.mp h with rfl | h
      · rw [List.mem_cons, not_or]
        exact ⟨fun heq => hd (beq_iff_eq.mpr heq.symm), ih List.mem_cons_self⟩
      · exact ih (List.mem_cons_of_mem _ h)

/-- **What is resolved completely is where the names lead.** -/
theorem leads_of_resolveNames (hrest : ∀ m ∈ rest, .char '/' ∉ m) (hseen : seen.IsRight root)
    (h : (resolveNames root budget seen here rest).complete = true) :
    (∃ links, Leads root links here rest (resolveNames root budget seen here rest).names)
      ∧ (resolveNames root budget seen here rest).seen.IsRight root := by
  induction budget using Nat.strongRecOn generalizing rest here seen with
  | ind budget ih =>
    induction rest generalizing here seen with
    | nil =>
      rw [resolveNames_nil]
      exact ⟨⟨0, .done⟩, hseen⟩
    | cons n rest ihrest =>
      have hslash := hrest n List.mem_cons_self
      have hrest' : ∀ m ∈ rest, .char '/' ∉ m := fun m hm => hrest m (List.mem_cons_of_mem n hm)
      rcases name_cases hslash with hn | rfl | hn
      · rw [resolveNames_stay hn] at h ⊢
        obtain ⟨⟨k, hk⟩, hright⟩ := ihrest hrest' hseen h
        exact ⟨⟨k, .stay hn hk⟩, hright⟩
      · rw [resolveNames_up] at h ⊢
        obtain ⟨⟨k, hk⟩, hright⟩ := ihrest hrest' hseen h
        exact ⟨⟨k, .up hk⟩, hright⟩
      by_cases hlink : ∃ target, root.at? (here ++ [n]) = some (.link target)
      · obtain ⟨target, hlink⟩ := hlink
        rw [resolveNames_name hn, hlink] at h ⊢
        dsimp only at h ⊢
        cases hfind : seen.find? (·.1 == here ++ [n]) with
        | some found =>
          obtain ⟨l, found⟩ := found
          rw [hfind] at h
          cases found with
          | none => cases h
          | some names =>
            have hlookup : seen.lookup? (here ++ [n]) = some (some names) := by
              rw [Seen.lookup?, hfind]
              rfl
            obtain ⟨i, hi⟩ := hseen _ _ hlookup
            obtain ⟨⟨k, hk⟩, hright⟩ := ihrest hrest' hseen h
            exact ⟨⟨_, hi.join hn hk⟩, hright⟩
        | none =>
          rw [hfind] at h
          cases budget with
          | zero => cases h
          | succ b =>
            dsimp only at h ⊢
            split at h
            · next hinner =>
              rw [if_pos hinner]
              obtain ⟨⟨i, hi⟩, hright⟩ := ih b (Nat.lt_succ_self b)
                (fun m hm => notMem_of_mem_splitOn hm) (hseen.begin _) hinner
              have hl : LinkLeads root i (here ++ [n]) _ :=
                ⟨target, hlink, by rwa [List.dropLast_concat]⟩
              obtain ⟨⟨k, hk⟩, hright'⟩ := ih b (Nat.lt_succ_self b) hrest' (hright.finish hl) h
              exact ⟨⟨_, hl.join hn hk⟩, hright'⟩
            · cases h
      · have hlink' (target : Text) : root.at? (here ++ [n]) ≠ some (.link target) :=
          fun heq => hlink ⟨target, heq⟩
        rw [resolveNames_enter hn hlink'] at h ⊢
        obtain ⟨⟨k, hk⟩, hright⟩ := ihrest hrest' hseen h
        exact ⟨⟨k, .enter hn hlink' hk⟩, hright⟩

end Resolving

/-- **A path leads somewhere just where resolving it is complete**: where it meets no cycle of links. -/
theorem exists_leadsTo_iff {fs : FileSystem} {p : Path} (hp : ∀ n ∈ p.names, .char '/' ∉ n) :
    (∃ place, fs.LeadsTo p place) ↔ (resolveNames fs.root (linkCount fs.root + 1) []
      (fs.startOf p) p.names).complete = true := by
  constructor
  · rintro ⟨place, links, h⟩
    obtain ⟨later, hr, -⟩ := resolveNames_of_leads h (Seen.agrees_nil fs.root links)
      (Nat.lt_succ_of_le (card_unseen_nil_le fs.root))
    rw [hr]
  · intro h
    obtain ⟨⟨links, hlinks⟩, -⟩ := leads_of_resolveNames hp Seen.isRight_nil h
    exact ⟨_, links, hlinks⟩

end FileSystem

end RichText
