import Mathlib.Data.List.TakeDrop
import RichText.Failure
import RichText.Proofs.Utf8
import RichText.Text.Surrogate
import RichText.Url.Refusal

/-!
# Proofs/Join — which addresses have a URL at a base

    address ──split──▸ parts ──▸ parts of the URL ──text──▸ URL

Nothing but an authority that cannot be read keeps an address from being joined to a base
(`Url.join_endsIn`), and the URL is made of the code points of both and of marks: it has half of a
surrogate pair only if one of them has.
-/

namespace RichText

/-! ## How computations end -/

/-- **How a computation ends**: with the failure that is expected, or with a result that has a
property where none is. -/
def EndsIn {ε α : Type} (P : α → Prop) (r : Except ε α) : Option ε → Prop
  | some e => r = .error e
  | none => ∃ a, r = .ok a ∧ P a

namespace EndsIn

variable {ε α β : Type} {P : α → Prop} {Q : β → Prop} {r : Except ε α} {f g : Option ε}

theorem ok {a : α} (h : P a) : EndsIn P (.ok a : Except ε α) none := ⟨a, rfl, h⟩

/-- Going on with a result: the failure of the first step comes first. -/
theorem bind (h : EndsIn P r f) {next : α → Except ε β}
    (hnext : ∀ a, P a → EndsIn Q (next a) g) : EndsIn Q (r >>= next) (f.or g) := by
  cases f with
  | some e =>
    obtain rfl : r = .error e := h
    rfl
  | none =>
    obtain ⟨a, rfl, ha⟩ := h
    exact hnext a ha

/-- Going on with a result where nothing fails any more. -/
theorem andThen (h : EndsIn P r f) {next : α → Except ε β}
    (hnext : ∀ a, P a → ∃ b, next a = .ok b ∧ Q b) : EndsIn Q (r >>= next) f := by
  rw [← Option.or_none (o := f)]
  exact h.bind hnext

theorem mono {P' : α → Prop} (h : EndsIn P r f) (himp : ∀ a, P a → P' a) : EndsIn P' r f := by
  cases f with
  | some e => exact h
  | none => exact h.imp fun a ha => ⟨ha.1, himp a ha.2⟩

/-- A result has the property that all results have. -/
theorem of_eq_ok (h : EndsIn P r f) {a : α} (ha : r = .ok a) : P a := by
  subst ha
  cases f with
  | some e => exact nomatch h
  | none =>
    obtain ⟨_, ⟨⟩, hb⟩ := h
    exact hb

/-- A computation that ends in one way ends in no other. -/
theorem exists_ok_iff (h : EndsIn P r f) : (∃ a, r = .ok a ∧ P a) ↔ f = none := by
  cases f with
  | none => exact iff_of_true h rfl
  | some e =>
    obtain rfl : r = .error e := h
    simp

/-- A computation fails for what it is said to fail for, and for nothing else. -/
theorem eq_error_iff (h : EndsIn P r f) (e : ε) : r = .error e ↔ f = some e := by
  cases f with
  | none =>
    obtain ⟨a, rfl, -⟩ := h
    simp
  | some e' =>
    obtain rfl : r = .error e' := h
    rw [Except.error.injEq, Option.some.injEq]

end EndsIn

/-! ## Texts without halves of surrogate pairs -/

namespace Text

/-- A text of characters: without half of a surrogate pair. -/
def IsWhole (t : Text) : Prop := ∀ c ∈ t, ∃ x, c = .char x

variable {s t : Text}

theorem isWhole_iff : t.IsWhole ↔ t.hasSurrogate = false := by
  rw [hasSurrogate, List.any_eq_false]
  refine forall₂_congr fun c _ => ?_
  cases c <;> simp

theorem isWhole_nil : IsWhole [] := List.forall_mem_nil _

theorem isWhole_ofString (s : String) : IsWhole (ofString s) := by
  intro c hc
  obtain ⟨x, -, rfl⟩ := List.mem_map.mp hc
  exact ⟨x, rfl⟩

/-- A text of code points of a text of characters is of characters. -/
theorem IsWhole.mono (ht : t.IsWhole) (h : s ⊆ t) : s.IsWhole := fun c hc => ht c (h hc)

theorem IsWhole.append (hs : s.IsWhole) (ht : t.IsWhole) : (s ++ t).IsWhole :=
  List.forall_mem_append.mpr ⟨hs, ht⟩

theorem IsWhole.cons (x : Char) (ht : t.IsWhole) : IsWhole (.char x :: t) :=
  List.forall_mem_cons.mpr ⟨⟨x, rfl⟩, ht⟩

/-- A text of characters has bytes. -/
theorem IsWhole.exists_toUtf8 (ht : t.IsWhole) : ∃ bytes, t.toUtf8 = .ok bytes := by
  have hsurrogate : t.hasSurrogate = false := List.any_eq_false.mpr fun c hc => by
    obtain ⟨x, rfl⟩ := ht c hc
    exact Bool.false_ne_true
  obtain ⟨bytes, hbytes⟩ := exists_utf8?_iff.mpr hsurrogate
  exact ⟨bytes, by rw [toUtf8, hbytes]⟩

end Text

open Text

/-- A part of a text that is split is made of its code points. -/
theorem subset_of_mem_splitOn {c : CodePoint} {t part : Text} (h : part ∈ List.splitOn c t) :
    part ⊆ t := by
  induction t generalizing part with
  | nil =>
    obtain rfl : part = [] := by simpa [List.splitOn] using h
    exact List.nil_subset _
  | cons d rest ih =>
    rw [List.splitOn, List.splitOnP_cons_eq_if_modifyHead] at h
    obtain ⟨first, others, hparts⟩ :=
      List.exists_cons_of_ne_nil (List.splitOnP_ne_nil (· == c) rest)
    rw [List.splitOn, hparts] at ih
    rw [hparts] at h
    split at h
    · rcases List.mem_cons.mp h with rfl | h
      · exact List.nil_subset _
      · exact List.subset_cons_of_subset d (ih h)
    · rw [List.modifyHead_cons] at h
      rcases List.mem_cons.mp h with rfl | h
      · exact List.cons_subset_cons d (ih List.mem_cons_self)
      · exact List.subset_cons_of_subset d (ih (List.mem_cons_of_mem first h))

namespace Url

/-! ## Splitting -/

theorem cutAt_subset (mark : CodePoint) (t : Text) :
    (cutAt mark t).1 ⊆ t ∧ (cutAt mark t).2.getD [] ⊆ t := by
  have hspan : (t.span (· ≠ mark)).1 ++ (t.span (· ≠ mark)).2 = t := by
    rw [List.span_eq_takeWhile_dropWhile]
    exact List.takeWhile_append_dropWhile
  rw [cutAt]
  split
  · next before c after heq =>
    rw [heq] at hspan
    rw [← hspan]
    exact ⟨List.subset_append_left _ _,
      List.Subset.trans (List.subset_cons_self c after) (List.subset_append_right _ _)⟩
  · next before heq =>
    rw [heq] at hspan
    rw [← hspan]
    exact ⟨List.subset_append_left _ _, List.nil_subset _⟩

theorem cleaned_subset (t : Text) : cleaned t ⊆ t := by
  have hfilter : cleaned t ⊆ t.dropWhile (·.code ≤ 0x20) := List.filter_sublist.subset
  exact List.Subset.trans hfilter (List.dropWhile_subset _)

/-- What follows the scheme of a URL does not depend on the scheme that is taken for none. -/
theorem splitScheme_snd (standard t : Text) :
    (splitScheme standard t).2 = (splitScheme [] t).2 := by
  rw [splitScheme, splitScheme]
  split
  · split <;> rfl
  · rfl

theorem splitScheme_snd_subset (standard t : Text) : (splitScheme standard t).2 ⊆ t := by
  rw [splitScheme]
  split
  · next first name rest heq =>
    have hrest := (cutAt_subset (.char ':') t).2
    rw [heq] at hrest
    split
    · exact hrest
    · exact List.Subset.refl t
  · exact List.Subset.refl t

theorem isWhole_splitScheme_fst {standard t : Text} (hs : standard.IsWhole) (ht : t.IsWhole) :
    (splitScheme standard t).1.IsWhole := by
  have hlower : ∀ s : Text, s.IsWhole → IsWhole (s.map asciiLower) := by
    intro s hs c hc
    obtain ⟨d, hd, rfl⟩ := List.mem_map.mp hc
    obtain ⟨x, rfl⟩ := hs d hd
    exact ⟨_, rfl⟩
  rw [splitScheme]
  split
  · next first name rest heq =>
    have hname := (cutAt_subset (.char ':') t).1
    rw [heq] at hname
    split
    · exact hlower _ (ht.mono hname)
    · exact hs
  · exact hs

theorem splitAuthority_subset (t : Text) :
    (splitAuthority t).1 ⊆ t ∧ (splitAuthority t).2 ⊆ t := by
  rw [splitAuthority.eq_def]
  split
  · next rest =>
    rw [List.span_eq_takeWhile_dropWhile]
    have hrest : rest ⊆ .char '/' :: .char '/' :: rest :=
      List.Subset.trans (List.subset_cons_self _ rest) (List.subset_cons_self _ _)
    exact ⟨List.Subset.trans (List.takeWhile_subset _) hrest,
      List.Subset.trans (List.dropWhile_subset _) hrest⟩
  · exact ⟨List.nil_subset _, List.Subset.refl _⟩

theorem splitParameters_subset (path : Text) :
    (splitParameters path).1 ⊆ path ∧ (splitParameters path).2 ⊆ path := by
  rw [splitParameters]
  have hlast : (path.reverse.takeWhile (· ≠ .char '/')).reverse ⊆ path := by
    intro c hc
    exact List.mem_reverse.mp (List.takeWhile_subset _ (List.mem_reverse.mp hc))
  split
  · next segment parameters heq =>
    have hcut := cutAt_subset (.char ';') (path.reverse.takeWhile (· ≠ .char '/')).reverse
    rw [heq] at hcut
    exact ⟨List.append_subset.mpr ⟨List.take_subset _ _, List.Subset.trans hcut.1 hlast⟩,
      List.Subset.trans hcut.2 hlast⟩
  · exact ⟨List.Subset.refl _, List.nil_subset _⟩

/-- A URL whose parts are texts of characters. -/
structure IsWhole (u : Url) : Prop where
  scheme : u.scheme.IsWhole
  authority : u.authority.IsWhole
  path : u.path.IsWhole
  parameters : u.parameters.IsWhole
  query : u.query.IsWhole
  fragment : u.fragment.IsWhole

/-- **What is wrong with a URL** is what is wrong with its authority. -/
theorem split_eq_error {standard t : Text} {e : UrlError} (h : authorityError? t = some e) :
    split standard t = .error e := by
  rw [authorityError?, authorityOf, ← splitScheme_snd standard] at h
  rw [split]
  dsimp only
  cases hb : bracketError? (splitAuthority (splitScheme standard (cleaned t)).2).1 with
  | some e' =>
    rw [hb] at h
    exact congrArg Except.error (Option.some.inj h)
  | none =>
    rw [hb] at h
    have hl : lookalikeError? (splitAuthority (splitScheme standard (cleaned t)).2).1 = some e := h
    dsimp only
    rw [hl]

/-- **A URL with an authority that can be read has parts**, made of its code points. -/
theorem exists_split (standard : Text) {t : Text} (h : authorityError? t = none) :
    ∃ u, split standard t = .ok u ∧ (standard.IsWhole → t.IsWhole → u.IsWhole) := by
  rw [authorityError?, authorityOf, ← splitScheme_snd standard] at h
  obtain ⟨hb, hl⟩ := Option.or_eq_none_iff.mp (Option.orElse_eq_or.symm.trans h)
  rw [split]
  dsimp only
  rw [hb]
  dsimp only
  rw [hl]
  refine ⟨_, rfl, fun hs ht => ?_⟩
  have hclean : (cleaned t).IsWhole := ht.mono (cleaned_subset t)
  have hrest := hclean.mono (splitScheme_snd_subset standard (cleaned t))
  have hbehind := hrest.mono (splitAuthority_subset _).2
  have hlocal := hbehind.mono (cutAt_subset (.char '#') _).1
  have hpath := hlocal.mono (cutAt_subset (.char '?') _).1
  have hparameters := splitParameters_subset
    (cutAt (.char '?') (cutAt (.char '#') (splitAuthority
      (splitScheme standard (cleaned t)).2).2).1).1
  refine ⟨isWhole_splitScheme_fst hs hclean, hrest.mono (splitAuthority_subset _).1, ?_, ?_,
    hlocal.mono (cutAt_subset (.char '?') _).2, hbehind.mono (cutAt_subset (.char '#') _).2⟩
  · dsimp only
    split
    · exact hpath.mono hparameters.1
    · exact hpath
  · dsimp only
    split
    · exact hpath.mono hparameters.2
    · exact isWhole_nil

theorem IsWhole.text {u : Url} (h : u.IsWhole) : u.text.IsWhole := by
  have hpath : Text.IsWhole
      (if u.parameters.isEmpty then u.path else u.path ++ ";" ++ u.parameters) := by
    split
    · exact h.path
    · exact (h.path.append (isWhole_ofString ";")).append h.parameters
  have hplaced : ∀ path : Text, path.IsWhole → Text.IsWhole
      (if path.isEmpty || path.head? == some (.char '/') then path else "/" ++ path) := by
    intro path hpath
    split
    · exact hpath
    · exact (isWhole_ofString "/").append hpath
  rw [Url.text]
  refine .append (.append ?_ ?_) ?_
  · have hrooted : ∀ path : Text, path.IsWhole → ∀ b : Bool, Text.IsWhole
        (if b then (if path.isEmpty || path.head? == some (.char '/') then path else "/" ++ path)
          |> fun p => "//" ++ u.authority ++ p else path) := by
      intro path hpath b
      split
      · exact ((isWhole_ofString "//").append h.authority).append (hplaced path hpath)
      · exact hpath
    split
    · exact hrooted _ hpath _
    · exact (h.scheme.append (isWhole_ofString ":")).append (hrooted _ hpath _)
  · split
    · exact isWhole_nil
    · exact h.query.cons '?'
  · split
    · exact isWhole_nil
    · exact h.fragment.cons '#'

/-! ## Paths -/

/-- Segments a path goes through are segments of the path. -/
theorem settled_subset (segments : List Text) : settled segments ⊆ segments := by
  have key : ∀ (rest done : List Text), rest.foldl (fun done s =>
      if s == [.char '.', .char '.'] then done.dropLast
      else if s == [.char '.'] then done
      else done ++ [s]) done ⊆ done ++ rest := by
    intro rest
    induction rest with
    | nil => intro done; exact List.subset_append_left _ _
    | cons s rest ih =>
      intro done
      rw [List.foldl_cons]
      refine List.Subset.trans (ih _) (List.append_subset.mpr ⟨?_, ?_⟩)
      · split
        · exact List.Subset.trans (List.dropLast_subset done) (List.subset_append_left _ _)
        · split
          · exact List.subset_append_left _ _
          · refine List.append_subset.mpr ⟨List.subset_append_left _ _, ?_⟩
            exact List.cons_subset.mpr
              ⟨List.mem_append_right done List.mem_cons_self, List.nil_subset _⟩
      · exact List.Subset.trans (List.subset_cons_self s rest) (List.subset_append_right _ _)
  exact key segments []

theorem withoutInnerBlanks_subset (segments : List Text) :
    withoutInnerBlanks segments ⊆ segments := by
  cases segments with
  | nil => exact List.nil_subset _
  | cons first rest =>
    rw [withoutInnerBlanks]
    refine List.append_subset.mpr ⟨List.cons_subset_cons first ?_, ?_⟩
    · exact List.Subset.trans List.filter_sublist.subset (List.dropLast_subset rest)
    · intro s hs
      rw [Option.mem_toList] at hs
      exact List.mem_cons_of_mem first (List.mem_of_getLast? hs)

/-- Names of characters are joined to a path of characters. -/
theorem isWhole_joinNames {names : List Text} (h : ∀ n ∈ names, n.IsWhole) :
    (Path.joinNames names).IsWhole := by
  induction names with
  | nil => exact isWhole_nil
  | cons n rest ih =>
    obtain ⟨hn, hrest⟩ := List.forall_mem_cons.mp h
    cases rest with
    | nil => exact hn
    | cons m more => exact (hn.append (isWhole_ofString "/")).append (ih hrest)

/-- The path of a reference is made of the code points of both paths. -/
theorem isWhole_mergedPath {base path : Text} (hb : base.IsWhole) (hp : path.IsWhole) :
    (mergedPath base path).IsWhole := by
  have hsegments : ∀ s ∈ mergedSegments base path, s.IsWhole := by
    have hpath : ∀ s ∈ List.splitOn (.char '/') path, Text.IsWhole s := fun s hs =>
      hp.mono (subset_of_mem_splitOn hs)
    have hbase : ∀ s ∈ List.splitOn (.char '/') base, Text.IsWhole s := fun s hs =>
      hb.mono (subset_of_mem_splitOn hs)
    rw [mergedSegments]
    split
    · exact hpath
    · intro s hs
      rcases List.mem_append.mp (withoutInnerBlanks_subset _ hs) with hs | hs
      · split at hs
        · exact hbase s hs
        · exact hbase s (List.dropLast_subset _ hs)
      · exact hpath s hs
  have hdone : ∀ s ∈ settled (mergedSegments base path), Text.IsWhole s := fun s hs =>
    hsegments s (settled_subset _ hs)
  have hclosed : ∀ s ∈ settled (mergedSegments base path) ++ [[]], Text.IsWhole s :=
    List.forall_mem_append.mpr ⟨hdone, List.forall_mem_singleton.mpr isWhole_nil⟩
  rw [mergedPath]
  split
  · exact isWhole_ofString "/"
  · refine isWhole_joinNames ?_
    split
    · split
      · exact hclosed
      · exact hdone
    · exact hdone

/-! ## Joining -/

/-- What two URLs with parts give: nothing of it comes from elsewhere. -/
theorem endsIn_join {base reference : Text} {b r : Url} (hb : base.isEmpty = false)
    (hr : reference.isEmpty = false) (hsb : split [] base = .ok b)
    (hsr : split b.scheme reference = .ok r) :
    EndsIn (fun t : Text => b.IsWhole → r.IsWhole → reference.IsWhole → t.IsWhole)
      (join base reference) none := by
  rw [join, hb, hr, if_neg Bool.false_ne_true, if_neg Bool.false_ne_true, hsb]
  dsimp only [bind, Except.bind, pure, Except.pure]
  rw [hsr]
  dsimp only
  split
  · exact .ok fun _ _ href => href
  split
  · exact .ok fun _ hr _ => hr.text
  have hauthority : b.IsWhole → r.IsWhole → Text.IsWhole
      (if schemeIn authoritySchemes r.scheme then b.authority else r.authority) := by
    intro hb hr
    split
    · exact hb.authority
    · exact hr.authority
  split
  · refine .ok fun hb hr _ => IsWhole.text
      ⟨hr.scheme, hauthority hb hr, hb.path, hb.parameters, ?_, hr.fragment⟩
    dsimp only
    split
    · exact hb.query
    · exact hr.query
  · exact .ok fun hb hr _ => IsWhole.text ⟨hr.scheme, hauthority hb hr,
      isWhole_mergedPath hb.path hr.path, hr.parameters, hr.query, hr.fragment⟩

/-- **Joining an address to a base** fails just where one of the two authorities cannot be read, the
base's first; the URL it gives is made of the code points of both and of marks. -/
theorem join_endsIn (base reference : Text) :
    EndsIn (fun t : Text => base.IsWhole → reference.IsWhole → t.IsWhole) (join base reference)
      (joinError? base reference) := by
  rw [joinError?]
  cases hb : base.isEmpty with
  | true =>
    rw [join, hb, if_pos rfl]
    exact .ok fun _ hr => hr
  | false =>
    cases hr : reference.isEmpty with
    | true =>
      rw [join, hb, hr, if_neg Bool.false_ne_true, if_pos rfl]
      exact .ok fun hb _ => hb
    | false =>
      rw [Bool.or_self, if_neg Bool.false_ne_true]
      cases hbase : authorityError? base with
      | some e =>
        show join base reference = .error e
        rw [join, hb, hr, if_neg Bool.false_ne_true, if_neg Bool.false_ne_true,
          split_eq_error hbase]
        rfl
      | none =>
        obtain ⟨b, hsb, hbw⟩ := exists_split [] hbase
        cases href : authorityError? reference with
        | some e =>
          show join base reference = .error e
          rw [join, hb, hr, if_neg Bool.false_ne_true, if_neg Bool.false_ne_true, hsb]
          dsimp only [bind, Except.bind]
          rw [split_eq_error href]
        | none =>
          obtain ⟨r, hsr, hrw⟩ := exists_split b.scheme href
          refine (endsIn_join hb hr hsb hsr).mono fun t hwhole hbase href => ?_
          have hparts : b.IsWhole := hbw isWhole_nil hbase
          exact hwhole hparts (hrw hparts.scheme href) href

end Url

end RichText
