import Mathlib.Data.List.Basic
import RichText.Proofs.Unescape

/-!
# Proofs/EscapePass — one image for every code point

    text ─\─▸ ─{─▸ ─}─▸ ─beyond ASCII─▸ ─tab─▸ RTF

Escaping goes over the whole text five times, and each time over what the time before has written.
Still every pass finds just those code points of its own that the text holds (`filter_flatMap_of`), so
each code point has one image, which a table gives (`IsImage`), and escaping is done part by part.  No
other opening brace behind a `d` is written than that of an escape group (`HasGroupsOf`), so whatever
looks like an escape group in escaped text is one.
-/

namespace RichText.Rtf

/-! ## The table of images -/

/-- **What a code point is written as**: a backslash in front of the marks of RTF, a word for the tab,
itself for the rest of ASCII, and one escape group or a pair of them beyond. -/
inductive IsImage (mode : UnicodeMode) : CodePoint → Text → Prop
  | mark {c : CodePoint} (h : c ∈ [.char '\\', .char '\x7b', .char '\x7d']) :
    IsImage mode c [.char '\\', c]
  | tab : IsImage mode (.char '\t') [.char '\\', .char 't', .char 'a', .char 'b']
  | ascii {c : CodePoint} (h : c.isAscii = true)
    (hmark : c ∉ [.char '\\', .char '\x7b', .char '\x7d', .char '\t']) : IsImage mode c [c]
  | group {c : CodePoint} (h : c.isAscii = false) (hmode : mode = .utf16 → c.code ≤ 0xFFFF) :
    IsImage mode c (escapeGroup c.code)
  | pair (hmode : mode = .utf16) (h l : Fin 1024) :
    IsImage mode (.joined h l) (escapeGroup (0xD800 + h.val) ++ escapeGroup (0xDC00 + l.val))

theorem isAstral_joined (h l : Fin 1024) : (CodePoint.joined h l).isAstral = true := by
  rw [CodePoint.isAstral_iff, CodePoint.code_joined]
  omega

theorem units16_joined (h l : Fin 1024) :
    (CodePoint.joined h l).units16 = [0xD800 + h.val, 0xDC00 + l.val] := by
  rw [CodePoint.units16, if_pos (isAstral_joined h l), CodePoint.code_joined]
  have hhigh : (0x10000 + h.val * 0x400 + l.val - 0x10000) / 0x400 = h.val := by omega
  have hlow : (0x10000 + h.val * 0x400 + l.val - 0x10000) % 0x400 = l.val := by omega
  dsimp only
  rw [hhigh, hlow]

/-- A code point beyond ASCII is none of those with an image of their own. -/
theorem escapedImage_of_not_isAscii (mode : UnicodeMode) {c : CodePoint} (h : c.isAscii = false) :
    escapedImage mode c = escapeCode mode c := by
  rcases escapedImage_cases mode c with ⟨rfl, -⟩ | ⟨rfl, -⟩ | ⟨rfl, -⟩ | ⟨rfl, -⟩ | ⟨-, himage⟩
  · cases h
  · cases h
  · cases h
  · cases h
  · rw [himage, h, if_neg Bool.false_ne_true]

theorem escapeCode_eq_escapeGroup {mode : UnicodeMode} {c : CodePoint}
    (hmode : mode = .utf16 → c.code ≤ 0xFFFF) : escapeCode mode c = escapeGroup c.code := by
  cases mode with
  | codepoint => rfl
  | utf16 =>
    have hsingle : ¬ c.isAstral = true := by
      rw [CodePoint.isAstral_iff]
      exact Nat.not_lt.mpr (hmode rfl)
    rw [escapeCode, CodePoint.units16, if_neg hsingle, List.flatMap_singleton]

theorem escapeCode_joined (h l : Fin 1024) :
    escapeCode .utf16 (.joined h l)
      = escapeGroup (0xD800 + h.val) ++ escapeGroup (0xDC00 + l.val) := by
  rw [escapeCode, units16_joined, List.flatMap_cons, List.flatMap_singleton]

/-- **Every code point has just the image that the table gives.** -/
theorem isImage_iff {mode : UnicodeMode} {c : CodePoint} {image : Text} :
    IsImage mode c image ↔ image = escapedImage mode c := by
  constructor
  · intro himage
    cases himage with
    | mark h =>
      simp only [List.mem_cons, List.not_mem_nil, or_false] at h
      obtain rfl | rfl | rfl := h <;> rfl
    | tab => rfl
    | ascii h hmark =>
      simp only [List.mem_cons, List.not_mem_nil, or_false, not_or] at hmark
      rcases escapedImage_cases mode c with ⟨hc, -⟩ | ⟨hc, -⟩ | ⟨hc, -⟩ | ⟨hc, -⟩ | ⟨-, himage⟩
      · exact (hmark.1 hc).elim
      · exact (hmark.2.1 hc).elim
      · exact (hmark.2.2.1 hc).elim
      · exact (hmark.2.2.2 hc).elim
      · rw [himage, if_pos h]
    | group h hmode =>
      rw [escapedImage_of_not_isAscii mode h, escapeCode_eq_escapeGroup hmode]
    | pair hmode h l =>
      have hbeyond : (CodePoint.joined h l).isAscii = false := by
        rw [CodePoint.isAscii, CodePoint.code_joined, decide_eq_false_iff_not]
        omega
      rw [hmode, escapedImage_of_not_isAscii _ hbeyond, escapeCode_joined]
  · rintro rfl
    rcases escapedImage_cases mode c with
      ⟨rfl, h⟩ | ⟨rfl, h⟩ | ⟨rfl, h⟩ | ⟨rfl, h⟩ | ⟨⟨h1, h2, h3, h4⟩, h⟩
    · exact .mark (by decide)
    · exact .mark (by decide)
    · exact .mark (by decide)
    · exact .tab
    · cases hascii : c.isAscii with
      | true =>
        rw [h, if_pos hascii]
        exact .ascii hascii (by simp [h1, h2, h3, h4])
      | false =>
        rw [h, hascii, if_neg Bool.false_ne_true]
        by_cases hsplit : mode = .utf16 ∧ c.isAstral = true
        · obtain ⟨rfl, hastral⟩ := hsplit
          obtain ⟨high, low, -, rfl⟩ := CodePoint.units16_of_isAstral hastral
          rw [escapeCode_joined]
          exact .pair rfl high low
        · have hmode : mode = .utf16 → c.code ≤ 0xFFFF := fun hutf16 =>
            Nat.not_lt.mp fun hlt => hsplit ⟨hutf16, CodePoint.isAstral_iff.mpr hlt⟩
          rw [escapeCode_eq_escapeGroup hmode]
          exact .group hascii hmode

/-! ## What a pass finds -/

/-- **What writes no code points of a class leaves those of a text alone.** -/
theorem filter_flatMap_of {p : CodePoint → Bool} {f : CodePoint → Text}
    (h : ∀ c, (f c).filter p = [c].filter p) (t : Text) : (t.flatMap f).filter p = t.filter p := by
  induction t with
  | nil => rfl
  | cons c rest ih =>
    rw [List.flatMap_cons, List.filter_append, h, ih, ← List.filter_append, List.singleton_append]

/-- A replacement finds and writes none of the code points of a class. -/
theorem filter_replace {p : CodePoint → Bool} {c : CodePoint} {image : Text} (hc : p c = false)
    (himage : image.filter p = []) (t : Text) : (replace c image t).filter p = t.filter p := by
  refine filter_flatMap_of (fun d => ?_) t
  split
  · next hd => rw [hd, himage, List.filter_cons, hc, if_neg Bool.false_ne_true, List.filter_nil]
  · rfl

/-- Escape groups bring no tabs with them. -/
theorem filter_tab_escapeBeyondAscii (mode : UnicodeMode) (t : Text) :
    (escapeBeyondAscii mode t).filter (· == .char '\t') = t.filter (· == .char '\t') := by
  refine filter_flatMap_of (fun c => ?_) t
  split
  · rfl
  · next hc =>
    have hself : (c == .char '\t') = false := by
      rw [beq_eq_false_iff_ne]
      rintro rfl
      exact hc rfl
    have hcode : (escapeCode mode c).filter (· == .char '\t') = [] := by
      rw [List.filter_eq_nil_iff]
      intro d hd htab
      exact tab_notMem_escapeCode mode c (eq_of_beq htab ▸ hd)
    rw [hcode, List.filter_cons, hself, if_neg Bool.false_ne_true, List.filter_nil]

/-! ## Where escape groups stand -/

/-- An escape group with the given digits stands somewhere in a text. -/
def HoldsGroup (s digits : Text) : Prop :=
  (∀ c ∈ digits, c.isDigit = true)
    ∧ ∃ before after, s = before ++ "\\ud\x7b\\uc6\\u" ++ digits ++ "\x7d" ++ after

/-- **Every opening brace behind a `d` is that of an escape group**, of one of the numbers `ns`. -/
def HasGroupsOf (ns : Nat → Prop) (s : Text) : Prop :=
  ∀ u w, s = u ++ .char 'd' :: .char '\x7b' :: w →
    ∃ n v, ns n ∧ w = ("\\uc6\\u" : Text) ++ (Text.padded 6 n ++ .char '\x7d' :: v)

theorem hasGroupsOf_of_notMem {ns : Nat → Prop} {s : Text} (h : .char '\x7b' ∉ s) :
    HasGroupsOf ns s := by
  rintro u w rfl
  exact (h (by simp)).elim

theorem hasGroupsOf_escapeGroup (n : Nat) : HasGroupsOf (· = n) (escapeGroup n) := by
  intro u w h
  have hgroup : escapeGroup n
      = ("\\ud" : Text) ++ .char '\x7b' ::
        (("\\uc6\\u" : Text) ++ (Text.padded 6 n ++ [.char '\x7d'])) := by
    rw [escapeGroup, List.append_assoc]
    rfl
  have hbehind : CodePoint.char '\x7b' ∉
      ("\\uc6\\u" : Text) ++ (Text.padded 6 n ++ [.char '\x7d']) := by
    intro hmem
    rcases List.mem_append.mp hmem with hmem | hmem
    · exact absurd hmem (by decide)
    rcases List.mem_append.mp hmem with hmem | hmem
    · exact absurd (Text.isDigit_of_mem_padded hmem) (by decide)
    · exact absurd hmem (by decide)
  -- There is one opening brace in the group, so what stands behind it is settled.
  rw [hgroup, List.append_cons u] at h
  obtain ⟨-, -, hw⟩ := (List.append_cons_inj_of_notMem (by decide) hbehind).mp h
  exact ⟨n, [], rfl, hw.symm⟩

theorem HasGroupsOf.mono {ms ns : Nat → Prop} {s : Text} (h : HasGroupsOf ms s)
    (hms : ∀ n, ms n → ns n) : HasGroupsOf ns s := by
  intro u w hs
  obtain ⟨n, v, hn, hw⟩ := h u w hs
  exact ⟨n, v, hms n hn, hw⟩

/-- No opening brace stands in front. -/
def IsUnopened (s : Text) : Prop := s.head? ≠ some (.char '\x7b')

instance : DecidablePred IsUnopened :=
  fun s => inferInstanceAs (Decidable (s.head? ≠ some (.char '\x7b')))

/-- A `d` at the end of a part and a brace at the beginning of the next one would make a group that
is none of theirs. -/
theorem HasGroupsOf.append {ns : Nat → Prop} {s t : Text} (hs : HasGroupsOf ns s)
    (ht : HasGroupsOf ns t) (hopen : IsUnopened t) : HasGroupsOf ns (s ++ t) := by
  intro u w h
  rcases List.append_eq_append_iff.mp h with ⟨a, rfl, ht'⟩ | ⟨a, rfl, hw⟩
  · exact ht a w ht'
  cases a with
  | nil => exact ht [] w hw.symm
  | cons d a =>
    cases a with
    | nil =>
      obtain ⟨-, rfl⟩ := List.cons.inj hw
      exact (hopen rfl).elim
    | cons brace a =>
      cases hw
      obtain ⟨n, v, hn, rfl⟩ := hs u a rfl
      exact ⟨n, v ++ t, hn, by simp⟩

/-- What is written part by part has the groups of its parts. -/
theorem hasGroupsOf_flatMap {α : Type} {ns : α → Nat → Prop} {f : α → Text} {l : List α}
    (h : ∀ a ∈ l, HasGroupsOf (ns a) (f a))
    (hopen : ∀ a ∈ l, IsUnopened (f a) ∧ f a ≠ []) :
    HasGroupsOf (fun n => ∃ a ∈ l, ns a n) (l.flatMap f) ∧ IsUnopened (l.flatMap f) := by
  induction l with
  | nil => exact ⟨hasGroupsOf_of_notMem List.not_mem_nil, fun h => by cases h⟩
  | cons a rest ih =>
    obtain ⟨hfirst, hothers⟩ := List.forall_mem_cons.mp h
    obtain ⟨⟨hunopened, hne⟩, hopen⟩ := List.forall_mem_cons.mp hopen
    obtain ⟨hrest, hrestOpen⟩ := ih hothers hopen
    rw [List.flatMap_cons]
    constructor
    · refine (hfirst.mono fun n hn => ⟨a, List.mem_cons_self, hn⟩).append (hrest.mono ?_) hrestOpen
      rintro n ⟨b, hb, hn⟩
      exact ⟨b, List.mem_cons_of_mem a hb, hn⟩
    · rwa [IsUnopened, List.head?_append, List.head?_eq_some_head hne, Option.some_or,
        ← List.head?_eq_some_head hne]

theorem isUnopened_escapeGroup (n : Nat) : IsUnopened (escapeGroup n) := by
  rw [IsUnopened, escapeGroup, List.append_assoc]
  intro h
  cases h

theorem hasGroupsOf_escapeCode (mode : UnicodeMode) (c : CodePoint) :
    HasGroupsOf (· ∈ escapeUnits mode c) (escapeCode mode c)
      ∧ IsUnopened (escapeCode mode c) := by
  rw [escapeCode_eq_flatMap]
  refine (hasGroupsOf_flatMap (fun n _ => hasGroupsOf_escapeGroup n)
    fun n _ => ⟨isUnopened_escapeGroup n, escapeGroup_ne_nil n⟩).imp_left fun h => h.mono ?_
  rintro n ⟨m, hm, rfl⟩
  exact hm

theorem escapeCode_ne_nil (mode : UnicodeMode) (c : CodePoint) : escapeCode mode c ≠ [] := by
  rw [escapeCode_eq_flatMap]
  cases mode with
  | codepoint => exact List.append_ne_nil_of_left_ne_nil (escapeGroup_ne_nil _) _
  | utf16 =>
    rw [escapeUnits, CodePoint.units16]
    split <;> exact List.append_ne_nil_of_left_ne_nil (escapeGroup_ne_nil _) _

/-- **An image has the groups of its code point**, and begins with no brace. -/
theorem hasGroupsOf_escapedImage (mode : UnicodeMode) (c : CodePoint) :
    HasGroupsOf (· ∈ escapeUnits mode c) (escapedImage mode c)
      ∧ IsUnopened (escapedImage mode c) ∧ escapedImage mode c ≠ [] := by
  rcases escapedImage_cases mode c with
    ⟨rfl, h⟩ | ⟨rfl, h⟩ | ⟨rfl, h⟩ | ⟨rfl, h⟩ | ⟨⟨-, hbrace, -, -⟩, h⟩
  · rw [h]
    exact ⟨hasGroupsOf_of_notMem (by decide), by decide, by decide⟩
  · rw [h]
    refine ⟨fun u w hu => ?_, by decide, by decide⟩
    -- The brace stands behind a backslash and not behind a `d`.
    cases u with
    | nil => exact absurd (List.cons.inj hu).1 (by decide)
    | cons d u =>
      have hlength := congrArg List.length hu
      simp [Text.ofString, Text.ofChars] at hlength
      omega
  · rw [h]
    exact ⟨hasGroupsOf_of_notMem (by decide), by decide, by decide⟩
  · rw [h]
    exact ⟨hasGroupsOf_of_notMem (by decide), by decide, by decide⟩
  · rw [h]
    split
    · refine ⟨hasGroupsOf_of_notMem (by simpa using Ne.symm hbrace), ?_, List.cons_ne_nil _ _⟩
      simpa [IsUnopened] using hbrace
    · obtain ⟨hgroups, hopen⟩ := hasGroupsOf_escapeCode mode c
      exact ⟨hgroups, hopen, escapeCode_ne_nil mode c⟩

/-- **What looks like an escape group in escaped text is one**: its number is one that a code point of
the text is escaped with. -/
theorem exists_unit_of_holdsGroup {mode : UnicodeMode} {t digits : Text}
    (h : HoldsGroup (escape mode t) digits) :
    ∃ c ∈ t, ∃ n ∈ escapeUnits mode c, digits = Text.padded 6 n := by
  obtain ⟨hdigits, before, after, heq⟩ := h
  have hgroups := (hasGroupsOf_flatMap (fun c _ => (hasGroupsOf_escapedImage mode c).1)
    (fun c _ => (hasGroupsOf_escapedImage mode c).2) (l := t)).1
  rw [← escape_eq_flatMap] at hgroups
  obtain ⟨n, v, ⟨c, hc, hn⟩, hw⟩ := hgroups (before ++ "\\u")
    (("\\uc6\\u" : Text) ++ (digits ++ .char '\x7d' :: after))
    (by rw [heq]; simp [Text.ofString, Text.ofChars])
  have hspan {ds rest : Text} (hds : ∀ c ∈ ds, c.isDigit = true) :
      (ds ++ .char '\x7d' :: rest).span (·.isDigit) = (ds, .char '\x7d' :: rest) :=
    Text.span_append hds fun d hd => by cases hd; rfl
  have hsame := congrArg (List.span CodePoint.isDigit) (List.append_cancel_left hw)
  rw [hspan hdigits, hspan fun _ => Text.isDigit_of_mem_padded] at hsame
  exact ⟨c, hc, n, hn, congrArg Prod.fst hsame⟩

/-- Surrogate units are below `0x10000`. -/
theorem units16_lt {c : CodePoint} {n : Nat} (h : n ∈ c.units16) : n ≤ 65535 := by
  have hc := c.code_lt
  rw [CodePoint.units16] at h
  split at h
  · simp only [List.mem_cons, List.not_mem_nil, or_false] at h
    omega
  · next hsingle =>
    rw [CodePoint.isAstral_iff] at hsingle
    rw [List.mem_singleton] at h
    omega

/-! ## Escaping -/

/-- **Escaping is done code point by code point.**  A text becomes the images of its code points, which
are those of the table, so what two texts become together is what each of them becomes.  Every pass
finds just the code points of its own that the text holds, and none that a pass before has written.
Where units are written, every escape group that stands in the RTF has six digits, which spell a
number of sixteen bits. -/
theorem escape_by_code_point (mode : UnicodeMode) :
    (∀ t, escape mode t = t.flatMap (escapedImage mode))
      ∧ (∀ c image, IsImage mode c image ↔ image = escapedImage mode c)
      ∧ (∀ s t, escape mode (s ++ t) = escape mode s ++ escape mode t)
      ∧ (∀ t : Text,
        let first := replace (.char '\\') "\\\\" t
        let second := replace (.char '\x7b') "\\\x7b" first
        let third := replace (.char '\x7d') "\\\x7d" second
        let fourth := escapeBeyondAscii mode third
        escape mode t = replace (.char '\t') "\\tab" fourth
          ∧ first.filter (· == .char '\x7b') = t.filter (· == .char '\x7b')
          ∧ second.filter (· == .char '\x7d') = t.filter (· == .char '\x7d')
          ∧ third.filter (!·.isAscii) = t.filter (!·.isAscii)
          ∧ fourth.filter (· == .char '\t') = t.filter (· == .char '\t'))
      ∧ ∀ t digits, HoldsGroup (escape .utf16 t) digits →
        digits.length = 6 ∧ digits.toNat ≤ 65535 := by
  refine ⟨escape_eq_flatMap mode, fun _ _ => isImage_iff, escape_append mode, fun t => ?_,
    fun t digits h => ?_⟩
  · refine ⟨rfl, filter_replace rfl rfl t, ?_, ?_, ?_⟩
    · rw [filter_replace rfl rfl, filter_replace rfl rfl]
    · rw [filter_replace rfl rfl, filter_replace rfl rfl, filter_replace rfl rfl]
    · rw [filter_tab_escapeBeyondAscii, filter_replace rfl rfl, filter_replace rfl rfl,
        filter_replace rfl rfl]
  · obtain ⟨c, -, n, hn, rfl⟩ := exists_unit_of_holdsGroup h
    have hle := units16_lt hn
    have hdigits : (Text.ofNat n).length ≤ 6 :=
      (Text.length_ofNat_le_iff (by decide)).mpr (Nat.lt_of_le_of_lt hle (by decide))
    rw [Text.length_padded, Text.toNat_padded]
    exact ⟨by omega, hle⟩

/-- A character beyond the basic plane is escaped with two units, the second of which is the last
group of the RTF. -/
theorem escape_by_code_point_sample :
    HoldsGroup (escape .utf16 "a😀") "056832" ∧ ("056832" : Text).length = 6
      ∧ ("056832" : Text).toNat ≤ 65535 := by
  have hgroup : HoldsGroup (escape .utf16 "a😀") "056832" :=
    ⟨by decide, "a\\ud\x7b\\uc6\\u055357\x7d", [], by decide +kernel⟩
  exact ⟨hgroup, (escape_by_code_point .utf16).2.2.2.2 _ _ hgroup⟩

end RichText.Rtf
