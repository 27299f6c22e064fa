import Mathlib.Data.List.DropRight
import RichText.Proofs.JsonValue

/-!
# Proofs/JsonFloat — floats of JSON documents read back

    x ──writeFloat──▸ a word, or sign, whole part and point or exponent ──scalar──▸ some float

A finite number is written with its shortest digits, positionally or with a power of ten
(`Binary64.exists_text_eq`); both are numerals that are read as floats
(`IsFloatNumeral.exists_isSpelling`).  Which float they are read as is left open.
-/

namespace RichText.Json

/-! ## Numerals -/

/-- Digits, at least one. -/
def IsDigits (t : Text) : Prop := t ≠ [] ∧ ∀ c ∈ t, c.isDigit = true

/-- The whole part of a numeral: a zero on its own, or digits that do not begin with one. -/
def IsWholePart (t : Text) : Prop :=
  t = [.char '0'] ∨ IsDigits t ∧ t.head? ≠ some (.char '0')

/-- **The numeral of a float** without its sign: a whole part with digits behind a point, with an
exponent, or with both. -/
inductive IsFloatNumeral : Text → Prop
  | fixed {whole fraction : Text} (hwhole : IsWholePart whole) (hfraction : IsDigits fraction) :
    IsFloatNumeral (whole ++ .char '.' :: fraction)
  | power {whole exponent : Text} {sign : Char} (hwhole : IsWholePart whole)
    (hsign : sign = '-' ∨ sign = '+') (hexponent : IsDigits exponent) :
    IsFloatNumeral (whole ++ .char 'e' :: .char sign :: exponent)
  | both {whole fraction exponent : Text} {sign : Char} (hwhole : IsWholePart whole)
    (hfraction : IsDigits fraction) (hsign : sign = '-' ∨ sign = '+')
    (hexponent : IsDigits exponent) :
    IsFloatNumeral (whole ++ .char '.' :: (fraction ++ .char 'e' :: .char sign :: exponent))

variable {whole fraction exponent rest : Text}

theorem IsWholePart.exists_eq_cons (h : IsWholePart whole) :
    ∃ d ds, whole = d :: ds ∧ d.isDigit = true := by
  obtain rfl | ⟨⟨hne, hdigits⟩, -⟩ := h
  · exact ⟨_, _, rfl, rfl⟩
  · obtain ⟨d, ds, rfl⟩ := List.exists_cons_of_ne_nil hne
    exact ⟨d, ds, rfl, hdigits d List.mem_cons_self⟩

theorem IsWholePart.ne_nil (h : IsWholePart whole) : whole ≠ [] := by
  obtain ⟨d, ds, rfl, -⟩ := h.exists_eq_cons
  exact List.cons_ne_nil d ds

theorem IsFloatNumeral.exists_eq_cons {t : Text} (h : IsFloatNumeral t) :
    ∃ d ds, t = d :: ds ∧ d.isDigit = true := by
  cases h with
  | fixed hwhole _ | power hwhole _ _ | both hwhole _ _ _ =>
    obtain ⟨d, ds, rfl, hd⟩ := hwhole.exists_eq_cons
    exact ⟨d, _, rfl, hd⟩

/-! ## Parts of numerals -/

/-- The whole part of a numeral ends at the first code point that is no digit. -/
theorem wholeDigits_append (h : IsWholePart whole) (hr : ∀ c ∈ rest.head?, c.isDigit = false) :
    wholeDigits (whole ++ rest) = (whole, rest) := by
  obtain rfl | ⟨⟨hne, hdigits⟩, hzero⟩ := h
  · rfl
  · obtain ⟨d, ds, rfl⟩ := List.exists_cons_of_ne_nil hne
    rw [wholeDigits.eq_def]
    split
    · next heq => exact absurd (congrArg some (List.cons.inj heq).1) hzero
    · exact Text.span_append hdigits hr

theorem fractionDigits_append (h : IsDigits fraction) (hr : ∀ c ∈ rest.head?, c.isDigit = false) :
    fractionDigits (.char '.' :: (fraction ++ rest)) = (fraction, rest) := by
  obtain ⟨hne, hdigits⟩ := h
  obtain ⟨d, ds, rfl⟩ := List.exists_cons_of_ne_nil hne
  rw [List.cons_append, fractionDigits, if_pos (hdigits d List.mem_cons_self)]
  exact Text.span_append hdigits hr

/-- The number of an exponent. -/
def exponentOf (sign : Char) (digits : Text) : Int :=
  if sign = '-' then -(Text.toNat digits : Int) else Text.toNat digits

theorem exponentPart?_append {sign : Char} (hsign : sign = '-' ∨ sign = '+')
    (h : IsDigits exponent) (hr : ∀ c ∈ rest.head?, c.isDigit = false) :
    exponentPart? (.char 'e' :: .char sign :: (exponent ++ rest))
      = some (exponentOf sign exponent, rest) := by
  obtain ⟨hne, hdigits⟩ := h
  obtain ⟨d, ds, rfl⟩ := List.exists_cons_of_ne_nil hne
  have hspan := Text.span_append hdigits hr
  rw [exponentPart?]
  obtain rfl | rfl := hsign
  all_goals
    rw [signedDigits?]
    dsimp only
    rw [hspan]
    rfl

/-! ## Numerals are read as floats -/

/-- The sign of a number. -/
def signOf (negative : Bool) : Text := if negative then "-" else ""

/-- A numeral with its sign is read part by part; an exponent or a fraction makes it a float. -/
theorem numeral?_eq {s t u : Text} (negative : Bool) {n : Int}
    (hdigit : ∀ c ∈ s.head?, c.isDigit = true) (hwhole : wholeDigits s = (whole, t))
    (hne : whole ≠ []) (hfraction : fractionDigits t = (fraction, u))
    (hexponent : exponentPart? u = some (n, rest)
      ∨ exponentPart? u = none ∧ n = 0 ∧ u = rest ∧ fraction ≠ []) :
    numeral? (signOf negative ++ s) = some (⟨negative, whole, fraction, n, true⟩, rest) := by
  obtain ⟨d, ds, rfl⟩ := List.exists_cons_of_ne_nil hne
  rw [numeral?.eq_def]
  split
  next negative' s' hsplit =>
  have hsign : (negative', s') = (negative, s) := by
    rw [← hsplit]
    cases negative with
    | true => rfl
    | false =>
      rw [signOf, if_neg Bool.false_ne_true]
      split
      · next heq =>
        have heq : s = _ := heq
        exact absurd (hdigit _ (by rw [heq]; rfl)) (by decide)
      · rfl
  cases hsign
  rw [hwhole]
  dsimp only
  rw [hfraction]
  dsimp only
  obtain hn | ⟨hn, rfl, rfl, hf⟩ := hexponent
  · rw [hn]
  · rw [hn]
    simpa using hf

/-- No digit stands where a mark does. -/
theorem head?_mark {m : Char} (hm : CodePoint.isDigit (.char m) = false) (u : Text) :
    ∀ c ∈ (CodePoint.char m :: u).head?, c.isDigit = false := by
  rintro c ⟨⟩
  exact hm

/-- The numeral of a float is read part by part, up to its end. -/
theorem IsFloatNumeral.exists_numeral? {t : Text} (h : IsFloatNumeral t) (negative : Bool) :
    ∃ n : Numeral, n.isFloat = true ∧ ∀ rest, IsDelimited rest →
      numeral? (signOf negative ++ (t ++ rest)) = some (n, rest) := by
  have hfirst : ∀ rest : Text, ∀ c ∈ (t ++ rest).head?, c.isDigit = true := by
    obtain ⟨d, ds, rfl, hd⟩ := h.exists_eq_cons
    rintro rest c ⟨⟩
    exact hd
  cases h with
  | @fixed whole fraction hwhole hfraction =>
    refine ⟨⟨negative, whole, fraction, 0, true⟩, rfl, fun rest hr => ?_⟩
    have hfirst := hfirst rest
    rw [List.append_assoc, List.cons_append] at hfirst ⊢
    exact numeral?_eq negative hfirst (wholeDigits_append hwhole (head?_mark rfl _))
      hwhole.ne_nil (fractionDigits_append hfraction fun c hc => (hr c hc).1)
      (.inr ⟨exponentPart?_of_isDelimited hr, rfl, rfl, hfraction.1⟩)
  | @power whole exponent sign hwhole hsign hexponent =>
    refine ⟨⟨negative, whole, [], exponentOf sign exponent, true⟩, rfl, fun rest hr => ?_⟩
    have hfirst := hfirst rest
    rw [List.append_assoc, List.cons_append] at hfirst ⊢
    exact numeral?_eq negative hfirst (wholeDigits_append hwhole (head?_mark rfl _))
      hwhole.ne_nil rfl (.inl (exponentPart?_append hsign hexponent fun c hc => (hr c hc).1))
  | @both whole fraction exponent sign hwhole hfraction hsign hexponent =>
    refine ⟨⟨negative, whole, fraction, exponentOf sign exponent, true⟩, rfl, fun rest hr => ?_⟩
    have hfirst := hfirst rest
    rw [List.append_assoc, List.cons_append, List.append_assoc, List.cons_append,
      List.cons_append] at hfirst ⊢
    exact numeral?_eq negative hfirst (wholeDigits_append hwhole (head?_mark rfl _))
      hwhole.ne_nil (fractionDigits_append hfraction (head?_mark rfl _))
      (.inl (exponentPart?_append hsign hexponent fun c hc => (hr c hc).1))

/-- **The numeral of a float spells a float.** -/
theorem IsFloatNumeral.exists_isSpelling {t : Text} (h : IsFloatNumeral t) (negative : Bool) :
    ∃ x, IsSpelling (signOf negative ++ t) (.float x) := by
  obtain ⟨n, hfloat, hn⟩ := h.exists_numeral? negative
  obtain ⟨d, ds, rfl, hd⟩ := h.exists_eq_cons
  have hvalue : ∃ x, n.value = .ok (.float x) := by
    rw [Numeral.value, hfloat, if_pos rfl]
    exact ⟨_, rfl⟩
  obtain ⟨x, hx⟩ := hvalue
  have hscalar : ∀ rest, IsDelimited rest →
      scalar (signOf negative ++ (d :: ds ++ rest)) = .ok (.float x, rest) := by
    intro rest hr
    have hword : word? (signOf negative ++ (d :: ds ++ rest)) = none := by
      cases negative with
      | true => exact word?_of_minus hd _
      | false => exact word?_of_isDigit hd _
    rw [scalar, hword, hn rest hr]
    dsimp only
    rw [hx]
    rfl
  refine ⟨x, ?_⟩
  cases negative with
  | true => exact isSpelling_of_scalar (ne_of_mem_marks (.inr rfl)) fun hr => hscalar _ hr
  | false => exact isSpelling_of_scalar (ne_of_mem_marks (.inl hd)) fun hr => hscalar _ hr

end RichText.Json

namespace RichText.Binary64

open Json

/-! ## The digits of a number -/

/-- The significant digits of a number other than zero: they do not begin with a zero. -/
structure IsSignificant (digits : List Char) : Prop where
  ne_nil : digits ≠ []
  isDigit : ∀ c ∈ digits, c.isDigit = true
  head_ne : digits.head? ≠ some '0'

theorem isSignificant_toDigits {n : Nat} (hn : n ≠ 0) : IsSignificant (Nat.toDigits 10 n) where
  ne_nil := List.length_pos_iff.mp Nat.length_toDigits_pos
  isDigit _ hc := Nat.isDigit_of_mem_toDigits (by decide) (by decide) hc
  head_ne h := by
    obtain ⟨rest, hrest⟩ := List.head?_eq_some_iff.mp h
    have htext : Text.ofNat n = .char '0' :: Text.ofChars rest := by
      rw [Text.ofNat, hrest]
      rfl
    exact hn (Text.ofNat_eq_zero_cons htext).1

/-- The zeros at the end may go: a digit other than zero comes before them. -/
theorem IsSignificant.rdropWhile {digits : List Char} (h : IsSignificant digits) :
    IsSignificant (digits.rdropWhile (· == '0')) := by
  obtain ⟨d, ds, rfl⟩ := List.exists_cons_of_ne_nil h.ne_nil
  have hd : d ≠ '0' := fun heq => h.head_ne (congrArg some heq)
  have hne : (d :: ds).rdropWhile (· == '0') ≠ [] := by
    rw [Ne, List.rdropWhile_eq_nil_iff]
    exact fun hall => hd (by simpa using hall d List.mem_cons_self)
  have hfront := List.rdropWhile_prefix (p := (· == '0')) (d :: ds)
  obtain ⟨k, ks, hk⟩ := List.exists_cons_of_ne_nil hne
  refine ⟨hne, fun c hc => h.isDigit c (hfront.subset hc), ?_⟩
  rw [hk] at hfront ⊢
  obtain rfl := (List.cons_prefix_cons.mp hfront).1
  exact fun heq => hd (Option.some.inj heq)

theorem isDigits_ofChars {cs : List Char} (hne : cs ≠ []) (h : ∀ c ∈ cs, c.isDigit = true) :
    IsDigits (Text.ofChars cs) := by
  refine ⟨fun heq => hne (List.map_eq_nil_iff.mp heq), ?_⟩
  intro c hc
  obtain ⟨x, hx, rfl⟩ := List.mem_map.mp hc
  exact h x hx

/-- Digits that do not begin with a zero are a whole part, and so are those they begin with. -/
theorem IsSignificant.isWholePart {digits more : List Char} (h : IsSignificant digits)
    (hmore : ∀ c ∈ more, c.isDigit = true) : IsWholePart (Text.ofChars (digits ++ more)) := by
  obtain ⟨d, ds, rfl⟩ := List.exists_cons_of_ne_nil h.ne_nil
  refine .inr ⟨isDigits_ofChars (List.cons_ne_nil _ _)
    (List.forall_mem_append.mpr ⟨h.isDigit, hmore⟩), fun heq => h.head_ne ?_⟩
  obtain rfl : d = '0' := CodePoint.char.inj (Option.some.inj heq)
  rfl

theorem isDigit_of_mem_replicate {n : Nat} {c : Char} (h : c ∈ List.replicate n '0') :
    c.isDigit = true := by
  rw [List.eq_of_mem_replicate h]
  rfl

/-- The digits a number begins with, at least one of them. -/
theorem IsSignificant.take {digits : List Char} (h : IsSignificant digits) {n : Nat}
    (hn : 0 < n) : IsSignificant (digits.take n) := by
  obtain ⟨d, ds, rfl⟩ := List.exists_cons_of_ne_nil h.ne_nil
  obtain ⟨m, rfl⟩ := Nat.exists_eq_add_of_le' hn
  exact ⟨List.cons_ne_nil _ _, fun c hc => h.isDigit c (List.mem_of_mem_take hc), h.head_ne⟩

/-! ## The two ways to write a number -/

theorem isFloatNumeral_positional {digits : List Char} (h : IsSignificant digits) (top : Int) :
    IsFloatNumeral (Text.ofChars (positional digits top)) := by
  rw [positional]
  split
  · have hfraction : IsDigits (Text.ofChars (List.replicate (top.natAbs - 1) '0' ++ digits)) :=
      isDigits_ofChars (by simp [h.ne_nil]) (List.forall_mem_append.mpr
        ⟨fun c hc => isDigit_of_mem_replicate hc, h.isDigit⟩)
    exact .fixed (.inl rfl) hfraction
  · rw [Text.ofChars, List.map_append, List.map_cons]
    by_cases hlength : digits.length ≤ top.toNat + 1
    · -- All digits stand before the point, with zeros behind them.
      rw [if_pos hlength, List.take_of_length_le (by
        rw [List.length_append, List.length_replicate]; omega)]
      exact .fixed (h.isWholePart fun c hc => isDigit_of_mem_replicate hc)
        (isDigits_ofChars (List.cons_ne_nil _ _) (List.forall_mem_singleton.mpr rfl))
    · rw [if_neg hlength, Nat.sub_eq_zero_of_le (by omega), List.replicate_zero, List.append_nil]
      have hwhole := (h.take (Nat.succ_pos top.toNat)).isWholePart (List.forall_mem_nil _)
      rw [List.append_nil] at hwhole
      refine .fixed hwhole (isDigits_ofChars ?_ fun c hc => h.isDigit c (List.mem_of_mem_drop hc))
      rw [← List.length_pos_iff, List.length_drop]
      omega

theorem isFloatNumeral_scientific {digits : List Char} (h : IsSignificant digits) (top : Int) :
    IsFloatNumeral (Text.ofChars (scientific digits top)) := by
  obtain ⟨d, ds, rfl⟩ := List.exists_cons_of_ne_nil h.ne_nil
  have hwhole := (h.take Nat.one_pos).isWholePart (List.forall_mem_nil _)
  have hsign : (if top < 0 then '-' else '+') = '-' ∨ (if top < 0 then '-' else '+') = '+' := by
    split
    · exact .inl rfl
    · exact .inr rfl
  have hexponent : IsDigits (Text.ofChars (List.replicate
      (2 - (Nat.toDigits 10 top.natAbs).length) '0' ++ Nat.toDigits 10 top.natAbs)) := by
    refine isDigits_ofChars ?_ (List.forall_mem_append.mpr
      ⟨fun c hc => isDigit_of_mem_replicate hc,
        fun c hc => Nat.isDigit_of_mem_toDigits (by decide) (by decide) hc⟩)
    exact List.append_ne_nil_of_right_ne_nil _ (List.length_pos_iff.mp Nat.length_toDigits_pos)
  rw [scientific.eq_def, List.append_assoc, List.append_assoc]
  cases ds with
  | nil => exact .power hwhole hsign hexponent
  | cons e rest =>
    have hfraction : IsDigits (Text.ofChars (e :: rest)) :=
      isDigits_ofChars (List.cons_ne_nil _ _) fun c hc => h.isDigit c (List.mem_cons_of_mem d hc)
    have hboth := IsFloatNumeral.both hwhole hfraction hsign hexponent
    simpa [Text.ofChars] using hboth

/-! ## Shortest digits -/

theorem isZero_zero (negative : Bool) : (zero negative).isZero = true := by
  have hmagnitude : (zero negative).magnitude = 0 := by
    have hfield : ((zero negative).exponentField == 0) = true := by cases negative <;> decide
    have hfraction : (zero negative).fraction = 0 := by cases negative <;> decide
    rw [magnitude, hfield, if_pos rfl, hfraction]
    exact Rat.zero_mul _
  have hfinite : (zero negative).isFinite = true := by cases negative <;> decide
  rw [isZero, hfinite, hmagnitude]
  rfl

/-- A decimal that rounds to a number other than zero is not zero. -/
theorem ne_zero_of_round {x : Binary64} (hx : x.isZero = false) {n : Nat} {unit : Int}
    (h : round x.negative (n * tenPow unit) = x) : n ≠ 0 := by
  rintro rfl
  have hsize : ((0 : Nat) : Rat) * tenPow unit = 0 := Rat.zero_mul _
  rw [hsize, round, if_pos (Rat.le_refl)] at h
  rw [← h, isZero_zero] at hx
  cases hx

theorem ne_zero_of_decimalOfLength? {x : Binary64} (hx : x.isZero = false) {top : Int} {n : Nat}
    {d : Nat × Int} (h : decimalOfLength? x top n = some d) : d.1 ≠ 0 := by
  rw [decimalOfLength?] at h
  dsimp only at h
  split at h
  · next hbelow habove =>
    cases h
    split
    · exact ne_zero_of_round hx (beq_iff_eq.mp hbelow)
    · exact Nat.succ_ne_zero _
  · next hbelow _ =>
    cases h
    exact ne_zero_of_round hx (beq_iff_eq.mp hbelow)
  · cases h
    exact Nat.succ_ne_zero _
  · cases h

/-- **The shortest digits of a number other than zero** are significant, if it has any. -/
theorem significant_cases {x : Binary64} (hx : x.isZero = false) :
    significant x.shortestDecimal = ([], 0)
      ∨ IsSignificant (significant x.shortestDecimal).1 := by
  rw [shortestDecimal]
  cases h : (List.range' 1 17).findSome? (decimalOfLength? x (decimalExponent x.magnitude)) with
  | none => exact .inl rfl
  | some d =>
    obtain ⟨_, n, _, -, hd, -⟩ := List.findSome?_eq_some_iff.mp h
    exact .inr (isSignificant_toDigits (ne_zero_of_decimalOfLength? hx hd)).rdropWhile

/-- **A finite number is written as the numeral of a float.** -/
theorem exists_text_eq {x : Binary64} (hnan : x.isNaN = false) (hinfinite : x.isInfinite = false) :
    ∃ t, x.text = signOf x.negative ++ t ∧ IsFloatNumeral t := by
  have hzero : IsFloatNumeral "0.0" := .fixed (.inl rfl) ⟨List.cons_ne_nil _ _, by decide⟩
  rw [text, hnan, if_neg Bool.false_ne_true]
  dsimp only
  rw [hinfinite, if_neg Bool.false_ne_true]
  cases hx : x.isZero with
  | true => exact ⟨_, rfl, hzero⟩
  | false =>
    refine ⟨_, rfl, ?_⟩
    obtain h | h := significant_cases hx
    · rw [h]
      exact hzero
    · split
      · exact isFloatNumeral_positional h _
      · exact isFloatNumeral_scientific h _

end RichText.Binary64

namespace RichText.Json

/-- **A float is spelled** by what is written of it; which one is read back is left open. -/
theorem exists_isSpelling_writeFloat (x : Binary64) :
    ∃ y, IsSpelling (writeFloat x) (.float y) := by
  rw [writeFloat]
  split
  · exact ⟨_, isSpelling_of_scalar (by decide) fun _ => rfl⟩
  split
  · split
    · exact ⟨_, isSpelling_of_scalar (by decide) fun _ => rfl⟩
    · exact ⟨_, isSpelling_of_scalar (by decide) fun _ => rfl⟩
  · next hnan hinfinite =>
    obtain ⟨t, ht, hnumeral⟩ := Binary64.exists_text_eq (Bool.not_eq_true _ ▸ hnan)
      (Bool.not_eq_true _ ▸ hinfinite)
    rw [ht]
    exact hnumeral.exists_isSpelling x.negative

end RichText.Json
