import RichText.Proofs.Way

/-!
# Proofs/File — a file is written, and nothing else

    root ──set place (file c)──▸ root'      alike everywhere but at the place
    path ──walk──▸ place                    in both, so what was written is found again

A path is followed through directories and links, and writing a file changes none of them
(`Entry.shell_at?_set`).  So the path still leads to the place that was written to (`walk_of_isLike`), and
a second content can be written where a first one was (`FileSystem.Wrote.again`).
-/

namespace RichText

namespace Entry

/-- An entry without what is in it, if it is a directory. -/
def shell : Entry → Entry
  | directory _ => directory []
  | e => e

variable {entries : List (Text × Entry)} {root root' e : Entry} {parent place : List Text} {m n : Text}

theorem not_link_of_shell_eq {e' : Entry} (h : e'.shell = e.shell) (he : ∀ target, e ≠ link target)
    (target : Text) : e' ≠ link target := by
  rintro rfl
  cases e with
  | link other => exact he other rfl
  | file content => cases h
  | directory entries => cases h

/-- What stands under a name once an entry has been put under one. -/
theorem child?_setName : (directory (setName n (some e) entries)).child? m
    = if m = n then some e else (directory entries).child? m := by
  rw [child?, child?, setName]
  split
  · next h =>
    have hkeys : ((fun x : Text × Entry => x.1 == m) ∘ fun x => if x.1 == n then (n, e) else x)
        = fun x => x.1 == m := by
      funext x
      by_cases hx : x.1 = n <;> simp [hx]
    rw [List.find?_map, hkeys, Option.map_map]
    cases hfind : entries.find? (·.1 == m) with
    | none =>
      have hm : m ≠ n := by
        rintro rfl
        obtain ⟨x, hx, hxm⟩ := List.any_eq_true.mp h
        exact List.find?_eq_none.mp hfind x hx hxm
      rw [if_neg hm]
      rfl
    | some x =>
      have hx : x.1 = m := by simpa using List.find?_some hfind
      by_cases hm : m = n <;> simp [hx, hm]
  · next h =>
    have hfind : entries.find? (·.1 == n) = none := by
      rw [List.find?_eq_none]
      intro x hx hxn
      exact h (List.any_eq_true.mpr ⟨x, hx, hxn⟩)
    rw [List.find?_append]
    by_cases hm : m = n
    · simp [hm, hfind]
    · simp [hm, Ne.symm hm]

/-- Putting an entry further down puts a changed entry under the first name. -/
theorem set_cons {rest : List Text} (hrest : rest ≠ []) (e : Option Entry) :
    (directory entries).set (n :: rest) e
      = directory (setName n
        (some ((((directory entries).child? n).getD (directory [])).set rest e)) entries) := by
  cases rest with
  | nil => exact absurd rfl hrest
  | cons m rest => rfl

/-- What stands under a name in a directory. -/
theorem at?_child (h : root.at? place = some (directory entries)) (n : Text) :
    root.at? (place ++ [n]) = (directory entries).child? n := by
  rw [at?_concat, h]
  rfl

/-- A directory on the way to a directory. -/
theorem exists_child_of_at? (h : root.at? (m :: place) = some e) :
    ∃ entries c, root = directory entries ∧ (directory entries).child? m = some c
      ∧ c.at? place = some e := by
  cases root with
  | file content => cases h
  | link target => cases h
  | directory entries =>
    rw [at?] at h
    cases hc : (directory entries).child? m with
    | none => rw [hc] at h; cases h
    | some c => exact ⟨entries, c, rfl, hc, by rwa [hc] at h⟩

/-- **What is put into a directory is there.** -/
theorem at?_set_self (n : Text) (e : Entry) (h : root.at? parent = some (directory entries)) :
    (root.set (parent ++ [n]) (some e)).at? (parent ++ [n]) = some e := by
  induction parent generalizing root with
  | nil =>
    obtain rfl : root = directory entries := by simpa [at?] using h
    simp [set, at?, child?_setName]
  | cons m rest ih =>
    obtain ⟨above, c, rfl, hc, hrest⟩ := exists_child_of_at? h
    rw [List.cons_append, set_cons (List.concat_ne_nil n rest), at?, child?_setName, if_pos rfl, hc]
    exact ih hrest

/-- **Nothing else becomes something else.** -/
theorem shell_at?_set (h : root.at? parent = some (directory entries)) {q : List Text}
    (hq : ¬ parent ++ [n] <+: q) :
    ((root.set (parent ++ [n]) (some e)).at? q).map shell = (root.at? q).map shell := by
  induction parent generalizing root q with
  | nil =>
    obtain rfl : root = directory entries := by simpa [at?] using h
    cases q with
    | nil => rfl
    | cons m rest =>
      have hm : m ≠ n := by
        rintro rfl
        exact hq (List.prefix_append [m] rest)
      rw [List.nil_append, set, at?, at?, child?_setName, if_neg hm]
  | cons p ps ih =>
    obtain ⟨above, c, rfl, hc, hps⟩ := exists_child_of_at? h
    rw [List.cons_append, set_cons (List.concat_ne_nil n ps), hc]
    cases q with
    | nil => rfl
    | cons m rest =>
      rw [at?, at?, child?_setName]
      by_cases hm : m = p
      · subst hm
        rw [if_pos rfl, hc]
        exact ih hps fun hrest => hq (List.cons_prefix_cons.mpr ⟨rfl, hrest⟩)
      · rw [if_neg hm]

/-- **Two trees of entries that are alike everywhere but at one place**: there are the same files and
links, and directories where there are directories. -/
def IsLike (root root' : Entry) (place : List Text) : Prop :=
  ∀ q, q ≠ place → (root'.at? q).map shell = (root.at? q).map shell

theorem IsLike.trans {last : Entry} (h : IsLike root root' place) (h' : IsLike root' last place) :
    IsLike root last place :=
  fun q hq => (h' q hq).trans (h q hq)

/-- Below what is no directory there is nothing. -/
theorem at?_below {x : Option Entry} (h : root.at? place = x)
    (hx : ∀ entries, x ≠ some (directory entries)) (n : Text) (q : List Text) :
    root.at? (place ++ n :: q) = none := by
  cases hc : root.at? (place ++ n :: q) with
  | none => rfl
  | some c =>
    obtain ⟨entries, hentries⟩ := exists_directory_of_at? hc
    exact absurd (h.symm.trans hentries) (hx entries)

/-- **Putting a file where there is no directory** changes nothing else. -/
theorem isLike_set (content : List UInt8) (h : root.at? parent = some (directory entries))
    (hn : ∀ entries, root.at? (parent ++ [n]) ≠ some (directory entries)) :
    IsLike root (root.set (parent ++ [n]) (some (.file content))) (parent ++ [n]) := by
  intro q hq
  by_cases hprefix : parent ++ [n] <+: q
  · obtain ⟨below, rfl⟩ := hprefix
    cases below with
    | nil => exact absurd (List.append_nil _) hq
    | cons m below =>
      rw [at?_below (at?_set_self n _ h) (by simp) m below, at?_below rfl hn m below]
  · exact shell_at?_set h hprefix

/-- What stands anywhere else is still there, but for what is in directories. -/
theorem IsLike.exists_at? {q : List Text} (h : IsLike root root' place) (hq : q ≠ place)
    (he : root.at? q = some e) : ∃ e', root'.at? q = some e' ∧ e'.shell = e.shell :=
  Option.map_eq_some_iff.mp ((h q hq).trans (by rw [he]; rfl))

theorem IsLike.directory {q : List Text} (h : IsLike root root' place) (hq : q ≠ place)
    (he : root.at? q = some (directory entries)) :
    ∃ entries', root'.at? q = some (.directory entries') := by
  obtain ⟨e', he', hshell⟩ := h.exists_at? hq he
  cases e' with
  | directory entries' => exact ⟨entries', he'⟩
  | file content => cases hshell
  | link target => cases hshell

theorem IsLike.link {q : List Text} {target : Text} (h : IsLike root root' place) (hq : q ≠ place)
    (he : root.at? q = some (link target)) : root'.at? q = some (link target) := by
  obtain ⟨e', he', hshell⟩ := h.exists_at? hq he
  cases e' with
  | link target' => cases hshell; exact he'
  | file content => cases hshell
  | directory entries' => cases hshell

end Entry

namespace FileSystem

variable {root root' : Entry} {budget : Nat} {here rest names place : List Text} {x : Option Entry}
  {content : List UInt8}

/-- What is found is what stands at the names. -/
theorem eq_at?_of_walk (h : walk root true budget here rest = .ok (names, x)) :
    x = root.at? names := by
  fun_induction walk root true budget here rest with
  | case1 => cases h; rfl
  | case2 | case5 | case7 | case9 | case12 => cases h
  | case3 _ _ _ _ _ _ _ ih | case4 _ _ _ _ _ _ _ _ ih | case10 _ _ _ _ _ _ _ _ _ _ _ _ _ ih
  | case11 _ _ _ _ _ _ _ _ _ _ _ _ ih => exact ih h
  | case6 budget here n rest entries hhere _ _ _ hchild =>
    cases h
    rw [Entry.at?_child hhere, hchild]
  | case8 _ _ _ rest _ _ _ _ _ _ _ hlast => simp at hlast

/-- **What a path can lead to**: a directory, or what is in one and is no link. -/
inductive IsReached (root : Entry) : List Text → Prop
  | directory {place : List Text} {entries : List (Text × Entry)}
    (h : root.at? place = some (.directory entries)) : IsReached root place
  | entry {parent : List Text} {n : Text} {entries : List (Text × Entry)}
    (h : root.at? parent = some (.directory entries))
    (hlink : ∀ target, root.at? (parent ++ [n]) ≠ some (.link target)) : IsReached root (parent ++ [n])

/-- What is above a directory is one. -/
theorem IsReached.above {entries : List (Text × Entry)} {rest : List Text}
    (h : root.at? (here ++ rest) = some (.directory entries)) : IsReached root here := by
  cases rest with
  | nil => exact .directory (List.append_nil here ▸ h)
  | cons n rest =>
    obtain ⟨entries, h⟩ := Entry.exists_directory_of_at? h
    exact .directory h

/-- Names are followed from what is reached to what is reached. -/
theorem isReached_of_walk (hhere : IsReached root here)
    (h : walk root true budget here rest = .ok (names, x)) : IsReached root names := by
  fun_induction walk root true budget here rest with
  | case1 => cases h; exact hhere
  | case2 | case5 | case7 | case9 | case12 => cases h
  | case3 budget here n rest entries hentries hstay ih => exact ih hhere h
  | case4 budget here n rest entries hentries hstay hup ih =>
    obtain ⟨last, hlast⟩ := List.dropLast_prefix here
    exact ih (.above (hlast.symm ▸ hentries)) h
  | case6 budget here n rest entries hentries hstay hup hlong hchild =>
    cases h
    have hnone : root.at? (here ++ [n]) = none := (Entry.at?_child hentries n).trans hchild
    exact .entry hentries fun target htarget => nomatch hnone.symm.trans htarget
  | case8 _ _ _ rest _ _ _ _ _ _ _ hlast => simp at hlast
  | case10 here n rest entries hentries hstay hup hlong target hchild hlast budget start ih =>
    refine ih ?_ h
    show IsReached root (linkStart here target)
    rw [linkStart]
    split
    · exact .above (show root.at? ([] ++ here) = _ from hentries)
    · exact hhere
  | case11 budget here n rest entries hentries hstay hup hlong e hlink hchild ih =>
    refine ih (.entry hentries fun target htarget => ?_) h
    rw [Entry.at?_child hentries] at htarget
    exact hlink target (Option.some.inj (hchild.symm.trans htarget))

/-! One more name, by what stands under it. -/

section Step

variable {n : Text} {entries : List (Text × Entry)}

theorem walk_stay (hhere : root.at? here = some (.directory entries))
    (hstay : (n.isEmpty || n == [.char '.']) = true) :
    walk root true budget here (n :: rest) = walk root true budget here rest := by
  rw [walk, hhere]
  exact if_pos hstay

theorem walk_up (hhere : root.at? here = some (.directory entries))
    (hstay : ¬(n.isEmpty || n == [.char '.']) = true) (hup : (n == [.char '.', .char '.']) = true) :
    walk root true budget here (n :: rest) = walk root true budget here.dropLast rest := by
  rw [walk, hhere]
  exact (if_neg hstay).trans (if_pos hup)

theorem walk_enter {e : Entry} (hhere : root.at? here = some (.directory entries))
    (hstay : ¬(n.isEmpty || n == [.char '.']) = true) (hup : ¬(n == [.char '.', .char '.']) = true)
    (hlong : ¬byteLength n > nameLimit) (hname : root.at? (here ++ [n]) = some e)
    (hlink : ∀ target, e ≠ .link target) :
    walk root true budget here (n :: rest) = walk root true budget (here ++ [n]) rest := by
  rw [Entry.at?_child hhere] at hname
  rw [walk, hhere]
  dsimp only
  rw [if_neg hstay, if_neg hup, if_neg hlong, hname]
  cases e with
  | file content => rfl
  | directory entries => rfl
  | link target => exact absurd rfl (hlink target)

theorem walk_link {target : Text} (hhere : root.at? here = some (.directory entries))
    (hstay : ¬(n.isEmpty || n == [.char '.']) = true) (hup : ¬(n == [.char '.', .char '.']) = true)
    (hlong : ¬byteLength n > nameLimit) (hname : root.at? (here ++ [n]) = some (.link target)) :
    walk root true (budget + 1) here (n :: rest)
      = walk root true budget (linkStart here target) (List.splitOn (.char '/') target ++ rest) := by
  rw [Entry.at?_child hhere] at hname
  rw [walk, hhere]
  dsimp only
  rw [if_neg hstay, if_neg hup, if_neg hlong, hname]
  simp [linkStart]

end Step

/-- **The way along a path is the same in a tree that is alike everywhere but at its end.** -/
theorem walk_of_isLike (hlike : Entry.IsLike root root' place)
    (hfile : root'.at? place = some (.file content))
    (hdirectory : ∀ entries, root.at? place ≠ some (.directory entries))
    (hlink : ∀ target, root.at? place ≠ some (.link target))
    (h : walk root true budget here rest = .ok (place, x)) :
    walk root' true budget here rest = .ok (place, some (.file content)) := by
  have hlater {here : List Text} {entries : List (Text × Entry)}
      (hentries : root.at? here = some (.directory entries)) :
      ∃ later, root'.at? here = some (.directory later) :=
    hlike.directory (by rintro rfl; exact hdirectory entries hentries) hentries
  have hend (budget : Nat) : walk root' true budget place [] = .ok (place, some (.file content)) := by
    rw [walk, hfile]
  fun_induction walk root true budget here rest with
  | case1 => cases h; exact hend _
  | case2 | case5 | case7 | case9 | case12 => cases h
  | case3 budget here n rest entries hentries hstay ih =>
    obtain ⟨later, hlater⟩ := hlater hentries
    rw [walk_stay hlater hstay]
    exact ih h
  | case4 budget here n rest entries hentries hstay hup ih =>
    obtain ⟨later, hlater⟩ := hlater hentries
    rw [walk_up hlater hstay hup]
    exact ih h
  | case6 budget here n rest entries hentries hstay hup hlong hchild hlast =>
    cases h
    obtain ⟨later, hlater⟩ := hlater hentries
    rw [walk_enter hlater hstay hup hlong hfile (by simp), List.isEmpty_iff.mp hlast, hend]
  | case8 _ _ _ rest _ _ _ _ _ _ _ hlast => simp at hlast
  | case10 here n rest entries hentries hstay hup hlong target hchild hlast budget start ih =>
    obtain ⟨later, hlater⟩ := hlater hentries
    have hold := (Entry.at?_child hentries n).trans hchild
    have hnew := hlike.link (by rintro rfl; exact hlink target hold) hold
    rw [walk_link hlater hstay hup hlong hnew]
    exact ih h
  | case11 budget here n rest entries hentries hstay hup hlong e hlink hchild ih =>
    obtain ⟨later, hlater⟩ := hlater hentries
    by_cases hplace : here ++ [n] = place
    · rw [walk_enter hlater hstay hup hlong (hplace ▸ hfile) (by simp)]
      exact ih h
    · obtain ⟨e', he', hshell⟩ := hlike.exists_at? hplace
        ((Entry.at?_child hentries n).trans hchild)
      rw [walk_enter hlater hstay hup hlong he' (Entry.not_link_of_shell_eq hshell hlink)]
      exact ih h

/-! ## Files -/

variable {fs later last : FileSystem} {path : Text}

/-- **A content has been written to the file that a path leads to**: it leads there before and after, the
file holds just that, and everything else is as it was. -/
structure Wrote (fs later : FileSystem) (path : Text) (place : List Text) (content : List UInt8) : Prop where
  led : ∃ x, fs.follow true path = .ok (place, x)
  leads : later.follow true path = .ok (place, some (.file content))
  kept : Entry.IsLike fs.root later.root place
  workingDirectory : later.workingDirectory = fs.workingDirectory

/-- A path is followed along its names, from the root or from the working directory. -/
theorem follow_eq_ok_iff {found : List Text × Option Entry} : fs.follow true path = .ok found ↔
    path.isEmpty = false ∧ ¬byteLength path > pathLimit ∧ walk fs.root true linkLimit
      (linkStart fs.workingDirectory path) (List.splitOn (.char '/') path) = .ok found := by
  rw [follow, ← linkStart]
  constructor
  · intro h
    dsimp only at h
    split at h
    · cases h
    split at h
    · cases h
    · next hempty hlong =>
      split at h
      · next hwalk => cases h; exact ⟨Bool.eq_false_iff.mpr hempty, hlong, hwalk⟩
      · cases h
  · rintro ⟨hempty, hlong, hwalk⟩
    rw [hempty, if_neg Bool.false_ne_true, if_neg hlong]
    dsimp only
    rw [hwalk]

/-- A path leads to a directory, or to what is in one and is no link. -/
theorem isReached_of_follow (h : fs.follow true path = .ok (place, x)) : IsReached fs.root place := by
  obtain ⟨-, -, hwalk⟩ := follow_eq_ok_iff.mp h
  refine isReached_of_walk ?_ hwalk
  obtain ⟨first, rest, hsplit⟩ :=
    List.exists_cons_of_ne_nil (List.splitOnP_ne_nil (· == CodePoint.char '/') path)
  rw [List.splitOn, hsplit, walk] at hwalk
  split at hwalk
  · cases hwalk
  · next hentries => exact .directory hentries
  · cases hwalk

/-- **Writing a file where there is no directory.** -/
theorem wrote_of_set (hled : fs.follow true path = .ok (place, x))
    (hx : ∀ entries, x ≠ some (.directory entries)) :
    Wrote fs { fs with root := fs.root.set place (some (.file content)) } path place content := by
  obtain ⟨hempty, hlong, hwalk⟩ := follow_eq_ok_iff.mp hled
  rw [eq_at?_of_walk hwalk] at hx
  cases isReached_of_follow hled with
  | directory h => exact absurd h (hx _)
  | @entry parent n entries h hlink =>
    have hlike := Entry.isLike_set content h hx
    have hfile := Entry.at?_set_self n (.file content) h
    exact ⟨⟨x, hled⟩, follow_eq_ok_iff.mpr
      ⟨hempty, hlong, walk_of_isLike hlike hfile hx hlink hwalk⟩, hlike, rfl⟩

/-- Where one content cannot be written, none can. -/
theorem put_eq_error {e : FileError} (h : fs.put path content = .error e) (other : List UInt8) :
    fs.put path other = .error e := by
  rw [put] at h ⊢
  split at h
  · exact h
  · cases h
  · exact h

/-- **Writing to a path**, where it is possible. -/
theorem exists_wrote_of_put (h : fs.put path content = .ok later) :
    ∃ place, Wrote fs later path place content := by
  rw [put] at h
  split at h
  · cases h
  · next place x hx hled =>
    cases h
    exact ⟨place, wrote_of_set hled fun entries => by rintro rfl; exact hx entries rfl⟩
  · cases h

/-- **What has been written to can be written to again.** -/
theorem Wrote.again (h : Wrote fs later path place content) (content' : List UInt8) :
    ∃ last, later.put path content' = .ok last ∧ Wrote fs last path place content' := by
  have hagain : Wrote later { later with root := later.root.set place (some (.file content')) } path
      place content' := wrote_of_set h.leads (by simp)
  refine ⟨_, by rw [put, h.leads], h.led, hagain.leads, h.kept.trans hagain.kept, ?_⟩
  exact hagain.workingDirectory.trans h.workingDirectory

/-- What has been written is what is read. -/
theorem Wrote.content_eq (h : Wrote fs later path place content) : later.content path = .ok content := by
  rw [FileSystem.content, stat, h.leads]

end FileSystem

end RichText
