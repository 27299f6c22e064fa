import RichText.Proofs.Escape
import RichText.Rtf.Unescape

/-!
# Proofs/Unescape — escaped text comes back

Reading escaped text from the left, every image is read as a whole and nothing else is: an escape
group ends at its own brace, and a backslash is always the first code point of an image
(`decodeFrom_escapedImage`).  What is read are the units each code point was written as, and joining
the pairs among them gives the text itself, with the pairs that were in it joined as well
(`joinPairs_units`).
-/

namespace RichText

/-! ## Surrogate pairs -/

namespace CodePoint

theorem ofCode_code (c : CodePoint) : ofCode c.code = c := by rw [ofCode, ofCode?_code]; rfl

/-- Every number below `0x110000` is that of a code point. -/
theorem ofCode?_of_lt {n : Nat} (h : n < 0x110000) : ofCode? n = some (ofCode n) := by
  have hsome : (ofCode? n).isSome = true := by
    by_cases hv : n.isValidChar
    · rw [ofCode?, dif_pos hv]
      rfl
    by_cases hh : n < 0xDC00
    · rw [ofCode?, dif_neg hv, if_pos hh]
      rfl
    · have hl : n < 0xE000 := by
        simp only [Nat.isValidChar, not_or, not_and] at hv
        omega
      rw [ofCode?, dif_neg hv, if_neg hh, if_pos hl]
      rfl
  obtain ⟨c, hc⟩ := Option.isSome_iff_exists.mp hsome
  rw [ofCode, hc, Option.getD_some]

/-- The number of the character a pair stands for. -/
theorem code_joined (h l : Fin 1024) : (joined h l).code = 0x10000 + h.val * 0x400 + l.val := by
  have hv : (0x10000 + h.val * 0x400 + l.val).isValidChar := Or.inr ⟨by omega, by omega⟩
  rw [joined, ofCode, ofCode?, dif_pos hv]
  rfl

theorem isAstral_iff {c : CodePoint} : c.isAstral = true ↔ 0xFFFF < c.code := by
  rw [isAstral, decide_eq_true_iff]

/-- The units of a character above `U+FFFF` are a pair, which stands for it. -/
theorem units16_of_isAstral {c : CodePoint} (hc : c.isAstral = true) :
    ∃ h l, c.units16.map ofCode = [.high h, .low l] ∧ joined h l = c := by
  have hlt := c.code_lt
  have hgt := isAstral_iff.mp hc
  have hh : (c.code - 0x10000) / 0x400 < 1024 := by omega
  have hl : (c.code - 0x10000) % 0x400 < 1024 := by omega
  refine ⟨⟨_, hh⟩, ⟨_, hl⟩, ?_, ?_⟩
  · rw [units16, if_pos hc, List.map_cons, List.map_cons, List.map_nil,
      ← ofCode_code (.high ⟨_, hh⟩), ← ofCode_code (.low ⟨_, hl⟩)]
    rfl
  · apply code_injective
    rw [code_joined]
    dsimp only
    omega

theorem units16_of_not_isAstral {c : CodePoint} (hc : ¬ c.isAstral = true) :
    c.units16.map ofCode = [c] := by
  rw [units16, if_neg hc, List.map_cons, List.map_nil, ofCode_code]

/-- A half of a pair is a unit of its own. -/
theorem not_isAstral_high (h : Fin 1024) : ¬ (high h).isAstral = true := by
  rw [isAstral_iff, code]
  omega

end CodePoint

namespace Text

/-- The text as what its code points are written as in UTF-16, one half of a pair at a time. -/
def units (t : Text) : Text := t.flatMap fun c => c.units16.map CodePoint.ofCode

theorem units_cons (c : CodePoint) (t : Text) :
    units (c :: t) = c.units16.map CodePoint.ofCode ++ units t := List.flatMap_cons

/-- Behind anything but a leading half, joining goes on as before. -/
theorem joinPairs_cons {c : CodePoint} {t : Text}
    (h : ∀ x y rest, c = .high x → t = .low y :: rest → False) :
    joinPairs (c :: t) = c :: joinPairs t := by
  rw [joinPairs.eq_def]
  split
  · next x y rest heq =>
    cases heq
    exact (h x y rest rfl rfl).elim
  · next heq =>
    cases heq
    rfl
  · next heq => cases heq

/-- Units begin with a trailing half only where the text does. -/
theorem units_eq_low_cons {t rest : Text} {l : Fin 1024} (h : units t = .low l :: rest) :
    ∃ u, t = .low l :: u := by
  cases t with
  | nil => cases h
  | cons c u =>
    rw [units_cons] at h
    by_cases hc : c.isAstral = true
    · obtain ⟨x, y, hu, -⟩ := CodePoint.units16_of_isAstral hc
      rw [hu] at h
      cases h
    · rw [CodePoint.units16_of_not_isAstral hc] at h
      cases h
      exact ⟨u, rfl⟩

/-- **Joining undoes writing in units**, and joins what was a pair before. -/
theorem joinPairs_units (t : Text) : joinPairs (units t) = joinPairs t := by
  fun_induction joinPairs t with
  | case1 h l rest ih =>
    have hl : ¬ (CodePoint.low l).isAstral = true := by
      rw [CodePoint.isAstral_iff, CodePoint.code]
      omega
    rw [units_cons, units_cons, CodePoint.units16_of_not_isAstral (CodePoint.not_isAstral_high h),
      CodePoint.units16_of_not_isAstral hl]
    exact congrArg (_ :: ·) ih
  | case2 c rest hpair ih =>
    rw [units_cons]
    by_cases hc : c.isAstral = true
    · obtain ⟨x, y, hu, hj⟩ := CodePoint.units16_of_isAstral hc
      rw [hu]
      exact (congrArg (_ :: ·) ih).trans (congrArg (· :: _) hj)
    · rw [CodePoint.units16_of_not_isAstral hc, ← ih]
      refine joinPairs_cons fun x y u hx hy => ?_
      obtain ⟨v, hv⟩ := units_eq_low_cons hy
      exact hpair x y v hx hv
  | case3 => rfl

/-- A text is joined pair by pair. -/
theorem joinPairs_append_pair (s t : Text) (h l : Fin 1024) :
    joinPairs (s ++ .high h :: .low l :: t)
      = joinPairs s ++ CodePoint.joined h l :: joinPairs t := by
  fun_induction joinPairs s with
  | case1 x y rest ih =>
    rw [List.cons_append, List.cons_append, joinPairs, ih, List.cons_append]
  | case2 c rest hpair ih =>
    rw [List.cons_append, joinPairs_cons, ih, List.cons_append]
    intro x y u hx hy
    cases rest with
    | nil => cases hy
    | cons d rest =>
      cases hy
      exact hpair x y rest hx rfl
  | case3 => rfl

/-- A text without a pair is left alone. -/
theorem joinPairs_eq_self_or (t : Text) :
    joinPairs t = t ∨ ∃ s h l rest, t = s ++ .high h :: .low l :: rest := by
  fun_induction joinPairs t with
  | case1 h l rest ih => exact Or.inr ⟨[], h, l, rest, rfl⟩
  | case2 c rest hpair ih =>
    rcases ih with ih | ⟨s, h, l, u, hu⟩
    · exact Or.inl (congrArg (c :: ·) ih)
    · exact Or.inr ⟨c :: s, h, l, u, congrArg (c :: ·) hu⟩
  | case3 => exact Or.inl rfl

end Text

namespace Rtf

/-! ## The number in an escape group -/

theorem decimalValue?_of_isDigit {c : CodePoint} (h : c.isDigit = true) :
    c.decimalValue? = some (c.code - 48) := by
  have hc : c.isAscii = true := by
    have := CodePoint.code_of_isDigit h
    rw [CodePoint.isAscii, decide_eq_true_iff]
    omega
  rw [CodePoint.decimalValue?, if_pos hc, if_pos h]

theorem decimalNumber_eq_toNat {t : Text} (h : ∀ c ∈ t, c.isDigit = true) :
    decimalNumber t = t.toNat := by
  have key : ∀ n : Nat, t.foldl (fun n c => n * 10 + (c.decimalValue?).getD 0) n
      = t.foldl (fun n c => n * 10 + (c.code - 48)) n := by
    induction t with
    | nil => exact fun n => rfl
    | cons c rest ih =>
      intro n
      rw [List.foldl_cons, List.foldl_cons, decimalValue?_of_isDigit (h c List.mem_cons_self)]
      exact ih (fun d hd => h d (List.mem_cons_of_mem c hd)) _
  exact key 0

/-- The number of a code point fills six or seven digits. -/
theorem length_padded_of_lt {n : Nat} (h : n < 0x110000) :
    (Text.padded 6 n).length = 6 ∨ (Text.padded 6 n).length = 7 := by
  have hle : (Text.ofNat n).length ≤ 7 :=
    (Text.length_ofNat_le_iff (by decide)).mpr (Nat.lt_trans h (by decide))
  rw [Text.length_padded]
  omega

/-- **An escape group is read as a whole**, whatever follows it. -/
theorem escapeGroup?_escapeGroup_append {n : Nat} (h : n < 0x110000) (rest : Text) :
    escapeGroup? (escapeGroup n ++ rest) = some ⟨n, (escapeGroup n).length⟩ := by
  have hdigits : ∀ c ∈ Text.padded 6 n, c.isDigit = true := fun c => Text.isDigit_of_mem_padded
  have hspan : (Text.padded 6 n ++ .char '\x7d' :: rest).span (fun c => c.decimalValue?.isSome)
      = (Text.padded 6 n, .char '\x7d' :: rest) := by
    refine Text.span_append (fun c hc => ?_) fun c hc => ?_
    · rw [decimalValue?_of_isDigit (hdigits c hc)]
      rfl
    · cases hc
      rfl
  have happ : escapeGroup n ++ rest
      = ("\\ud\x7b\\uc6\\u" : Text) ++ (Text.padded 6 n ++ .char '\x7d' :: rest) := by
    rw [escapeGroup, List.append_assoc, List.append_assoc]
    rfl
  have hlen : (escapeGroup n).length
      = ("\\ud\x7b\\uc6\\u" : Text).length + (Text.padded 6 n).length + 1 := by
    rw [escapeGroup, List.length_append, List.length_append]
    rfl
  rw [escapeGroup?, happ, if_pos (List.isPrefixOf_iff_prefix.mpr (List.prefix_append _ _)),
    List.drop_left, hspan, hlen]
  simp only [if_pos (length_padded_of_lt h), decimalNumber_eq_toNat hdigits, Text.toNat_padded]

theorem escapeGroup_ne_nil (n : Nat) : escapeGroup n ≠ [] :=
  List.append_ne_nil_of_right_ne_nil _ (List.cons_ne_nil _ _)

theorem leadingEscape?_escapeGroup_append {n : Nat} (h : n < 0x110000) (rest : Text) :
    leadingEscape? (escapeGroup n ++ rest) = some ⟨n, (escapeGroup n).length⟩ := by
  rw [leadingEscape?.eq_def, escapeGroup?_escapeGroup_append h]

/-! ## Reading from the left -/

/-- What belongs to an escape is skipped. -/
theorem decodeFrom_length_append (s t : Text) :
    decodeFrom s.length (s ++ t) = decodeFrom 0 t := by
  induction s with
  | nil => rfl
  | cons c rest ih => exact ih

/-- An escape is read as its code point. -/
theorem decodeFrom_of_leadingEscape? {s t : Text} {n : Nat} (hn : n < 0x110000) (hs : s ≠ [])
    (h : leadingEscape? (s ++ t) = some ⟨n, s.length⟩) :
    decodeFrom 0 (s ++ t) = (decodeFrom 0 t).map (CodePoint.ofCode n :: ·) := by
  obtain ⟨c, s, rfl⟩ := List.exists_cons_of_ne_nil hs
  rw [List.cons_append] at h ⊢
  rw [decodeFrom, h]
  dsimp only
  rw [CodePoint.ofCode?_of_lt hn, List.length_cons, Nat.add_sub_cancel, decodeFrom_length_append]

/-- A code point that is no backslash begins no escape. -/
theorem leadingEscape?_cons {c : CodePoint} {t : Text} (h : c ≠ .char '\\') :
    leadingEscape? (c :: t) = none := by
  have hgroup : escapeGroup? (c :: t) = none := by
    rw [escapeGroup?, if_neg]
    intro hpre
    obtain ⟨u, hu⟩ := List.isPrefixOf_iff_prefix.mp hpre
    exact h (List.cons.inj hu).1.symm
  rw [leadingEscape?.eq_def, hgroup]
  dsimp only
  split
  · next heq => exact absurd (List.cons.inj heq).1 h
  · next heq => exact absurd (List.cons.inj heq).1 h
  · next heq => exact absurd (List.cons.inj heq).1 h
  · next heq => exact absurd (List.cons.inj heq).1 h
  · rfl

/-- Escape groups are read one after the other. -/
theorem decodeFrom_flatMap_escapeGroup {ns : List Nat} (h : ∀ n ∈ ns, n < 0x110000) (t : Text) :
    decodeFrom 0 (ns.flatMap escapeGroup ++ t)
      = (decodeFrom 0 t).map (ns.map CodePoint.ofCode ++ ·) := by
  induction ns with
  | nil =>
    rw [List.flatMap_nil, List.nil_append]
    cases decodeFrom 0 t <;> rfl
  | cons n rest ih =>
    have hn := h n List.mem_cons_self
    rw [List.flatMap_cons, List.append_assoc,
      decodeFrom_of_leadingEscape? hn (escapeGroup_ne_nil n)
        (leadingEscape?_escapeGroup_append hn _),
      ih fun m hm => h m (List.mem_cons_of_mem n hm)]
    cases decodeFrom 0 t <;> rfl

theorem escapeUnits_lt {mode : UnicodeMode} {c : CodePoint} {n : Nat} (h : n ∈ escapeUnits mode c) :
    n < 0x110000 := by
  have hc := c.code_lt
  cases mode with
  | codepoint =>
    rw [escapeUnits, List.mem_singleton] at h
    omega
  | utf16 =>
    rw [escapeUnits, CodePoint.units16] at h
    split at h
    · simp only [List.mem_cons, List.not_mem_nil, or_false] at h
      omega
    · rw [List.mem_singleton] at h
      omega

/-- A code point of ASCII is one unit. -/
theorem escapeUnits_of_isAscii (mode : UnicodeMode) {c : CodePoint} (h : c.isAscii = true) :
    (escapeUnits mode c).map CodePoint.ofCode = [c] := by
  cases mode with
  | codepoint => rw [escapeUnits, List.map_singleton, CodePoint.ofCode_code]
  | utf16 =>
    refine CodePoint.units16_of_not_isAstral ?_
    rw [CodePoint.isAscii, decide_eq_true_iff] at h
    rw [CodePoint.isAstral_iff]
    omega

/-- **The image of a code point is read as its units**, whatever follows it. -/
theorem decodeFrom_escapedImage (mode : UnicodeMode) (c : CodePoint) (t : Text) :
    decodeFrom 0 (escapedImage mode c ++ t)
      = (decodeFrom 0 t).map ((escapeUnits mode c).map CodePoint.ofCode ++ ·) := by
  rcases escapedImage_cases mode c with
    ⟨rfl, h⟩ | ⟨rfl, h⟩ | ⟨rfl, h⟩ | ⟨rfl, h⟩ | ⟨⟨hb, -, -, -⟩, h⟩
  · rw [h, escapeUnits_of_isAscii mode rfl]
    exact decodeFrom_of_leadingEscape? (n := 92) (by decide) (by decide) rfl
  · rw [h, escapeUnits_of_isAscii mode rfl]
    exact decodeFrom_of_leadingEscape? (n := 123) (by decide) (by decide) rfl
  · rw [h, escapeUnits_of_isAscii mode rfl]
    exact decodeFrom_of_leadingEscape? (n := 125) (by decide) (by decide) rfl
  · rw [h, escapeUnits_of_isAscii mode rfl]
    exact decodeFrom_of_leadingEscape? (n := 9) (by decide) (by decide) rfl
  · rw [h]
    split
    · next ha =>
      rw [escapeUnits_of_isAscii mode ha, List.singleton_append, decodeFrom,
        leadingEscape?_cons hb]
      rfl
    · rw [escapeCode_eq_flatMap]
      exact decodeFrom_flatMap_escapeGroup (fun n => escapeUnits_lt) t

/-- Escaped text is read as the units of its code points. -/
theorem decodeFrom_escape (mode : UnicodeMode) (t : Text) :
    decodeFrom 0 (escape mode t)
      = .ok (t.flatMap fun c => (escapeUnits mode c).map CodePoint.ofCode) := by
  rw [escape_eq_flatMap]
  induction t with
  | nil => rfl
  | cons c rest ih =>
    rw [List.flatMap_cons, decodeFrom_escapedImage, ih, List.flatMap_cons]
    rfl

/-- **Escaped text comes back** with its surrogate pairs joined, in either mode; a text comes back
as it was unless there is a pair in it, and every pair comes back as the code point it encodes. -/
theorem unescape_escape (mode : UnicodeMode) (t : Text) :
    unescape (escape mode t) = .ok t.joinPairs
      ∧ (unescape (escape mode t) = .ok t ∨ ∃ s h l rest, t = s ++ .high h :: .low l :: rest)
      ∧ ∀ s h l rest, Text.joinPairs (s ++ .high h :: .low l :: rest)
          = Text.joinPairs s ++ CodePoint.joined h l :: Text.joinPairs rest
        ∧ (CodePoint.joined h l).code = 0x10000 + h.val * 0x400 + l.val := by
  have hjoin : unescape (escape mode t) = .ok t.joinPairs := by
    rw [unescape, decodeFrom_escape]
    cases mode with
    | utf16 => exact congrArg Except.ok (Text.joinPairs_units t)
    | codepoint =>
      have hid : (t.flatMap fun c => (escapeUnits .codepoint c).map CodePoint.ofCode) = t := by
        simp only [escapeUnits, List.map_cons, List.map_nil, CodePoint.ofCode_code,
          List.flatMap_singleton']
      rw [hid]
      rfl
  refine ⟨hjoin, ?_, fun s h l rest =>
    ⟨Text.joinPairs_append_pair s rest h l, CodePoint.code_joined h l⟩⟩
  rcases Text.joinPairs_eq_self_or t with hself | hpair
  · exact Or.inl (hjoin.trans (congrArg Except.ok hself))
  · exact Or.inr hpair

end Rtf

end RichText
