import RichText.Json.Writer
import RichText.Proofs.Numeral

/-!
# Proofs/JsonScalar — scalars of JSON documents read back

    c ──escaped──▸ 1, 2 or 6 code points ──element──▸ c          (`element_escaped`)
    t ──writeText──▸ "…" ──textBody──▸ t, and what follows it    (`textBody_escaped`)
    i ──ofInt──▸ a numeral ──scalar──▸ i, and what follows it    (`scalar_ofInt`)

A text ends at its quotation mark, an integer at the first code point that cannot go on with it
(`IsDelimited`).
-/

namespace RichText.Json

/-! ## Texts -/

/-- The digits a control is escaped with: two zeros and two digits of its own. -/
def controlDigits (n : Nat) : Text :=
  [.char '0', .char '0', .char (Nat.digitChar (n / 16)), .char (Nat.digitChar (n % 16))]

theorem paddedHex_of_control {n : Nat} (h : n < 0x20) : Text.paddedHex 4 n = controlDigits n := by
  have key : ∀ n : Fin 0x20, Text.paddedHex 4 n = controlDigits n := by decide
  exact key ⟨n, h⟩

/-- The escape of a control is read, whatever follows it. -/
theorem element_control (start : Text) {n : Nat} (h : n < 0x20) (next : CodePoint) (more : Text) :
    element start ("\\u" ++ controlDigits n ++ next :: more) = .ok (some (.ofCode n, 6)) := by
  have hvalue : ∀ n : Fin 0x20, hex4? (.char '0') (.char '0') (.char (Nat.digitChar (n / 16)))
      (.char (Nat.digitChar (n % 16))) = some n.val := by decide
  have hchar : ∀ n : Fin 0x20, CodePoint.ofCode n = .char (Char.ofNat n) := by decide
  have hescape : unicodeEscape (.char 'u' :: controlDigits n ++ next :: more)
      = .ok (.ofCode n, 6) := by
    have hn := hvalue ⟨n, h⟩
    have hc := hchar ⟨n, h⟩
    dsimp only at hn hc
    simp only [controlDigits, List.cons_append, List.nil_append, unicodeEscape, hn, hc]
  show (unicodeEscape (.char 'u' :: controlDigits n ++ next :: more)).map some = _
  rw [hescape]
  rfl

/-- **A code point reads back** from inside quotation marks. -/
theorem element_escaped (start : Text) (c : CodePoint) (next : CodePoint) (more : Text) :
    element start (escaped c ++ next :: more) = .ok (some (c, (escaped c).length)) := by
  rw [escaped.eq_def]
  split
  · rfl
  · rfl
  · rfl
  · rfl
  · rfl
  · rfl
  · rfl
  · split
    · next hc =>
      rw [paddedHex_of_control hc, element_control start hc, CodePoint.ofCode,
        CodePoint.ofCode?_code]
      rfl
    · next hquote hslash _ _ _ _ _ hc =>
      rw [List.singleton_append, element.eq_def]
      split <;> simp_all

theorem textBody_skip (start u tail : Text) :
    textBody start u.length (u ++ tail) = textBody start 0 tail := by
  induction u with
  | nil => rfl
  | cons c rest ih => rw [List.length_cons, List.cons_append, textBody, ih]

theorem escaped_ne_nil (c : CodePoint) : escaped c ≠ [] := by
  rw [escaped.eq_def]
  split
  all_goals first | exact List.cons_ne_nil _ _ | split <;> exact List.cons_ne_nil _ _

/-- **A text reads back** up to its closing quotation mark. -/
theorem textBody_escaped (start t rest : Text) :
    textBody start 0 (t.flatMap escaped ++ .char '"' :: rest) = .ok (t, rest) := by
  induction t with
  | nil => rfl
  | cons c t ih =>
    obtain ⟨next, more, htail⟩ := List.exists_cons_of_ne_nil
      (List.append_ne_nil_of_right_ne_nil (t.flatMap escaped) (List.cons_ne_nil (.char '"') rest))
    have helement := element_escaped start c next more
    obtain ⟨d, u, hd⟩ := List.exists_cons_of_ne_nil (escaped_ne_nil c)
    rw [← htail, hd, List.cons_append] at helement
    rw [List.flatMap_cons, List.append_assoc, hd, List.cons_append, textBody, helement]
    dsimp only
    rw [List.length_cons, Nat.add_sub_cancel, textBody_skip, ih]

/-! ## Integers -/

/-- What follows cannot go on with a number. -/
def IsDelimited (rest : Text) : Prop :=
  ∀ c ∈ rest.head?, c.isDigit = false ∧ c ≠ .char '.' ∧ c ≠ .char 'e' ∧ c ≠ .char 'E'

/-- The marks that stand behind a value. -/
theorem isDelimited_cons {c : CodePoint} (hc : c ∈ (",]\x7d" : Text)) (rest : Text) :
    IsDelimited (c :: rest) := by
  have key : ∀ c ∈ (",]\x7d" : Text), c.isDigit = false ∧ c ≠ .char '.' ∧ c ≠ .char 'e'
      ∧ c ≠ .char 'E' := by decide
  rintro d ⟨⟩
  exact key c hc

theorem wholeDigits_ofNat (n : Nat) {rest : Text} (h : IsDelimited rest) :
    wholeDigits (Text.ofNat n ++ rest) = (Text.ofNat n, rest) := by
  obtain ⟨d, ds, hd⟩ := List.exists_cons_of_ne_nil (Text.ofNat_ne_nil n)
  have hspan : (Text.ofNat n ++ rest).span (·.isDigit) = (Text.ofNat n, rest) :=
    Text.span_append (fun c => Text.isDigit_of_mem_ofNat) fun c hc => (h c hc).1
  by_cases hz : d = .char '0'
  · -- A leading zero is read on its own, so it has to be the whole numeral.
    subst hz
    obtain ⟨rfl, rfl⟩ := Text.ofNat_eq_zero_cons hd
    rfl
  · rw [wholeDigits.eq_def]
    split
    · next heq =>
      rw [hd] at heq
      exact absurd (List.cons.inj heq).1 hz
    · exact hspan

theorem fractionDigits_of_isDelimited {rest : Text} (h : IsDelimited rest) :
    fractionDigits rest = ([], rest) := by
  rw [fractionDigits.eq_def]
  split
  · exact absurd rfl (h _ rfl).2.1
  · rfl

theorem exponentPart?_of_isDelimited {rest : Text} (h : IsDelimited rest) :
    exponentPart? rest = none := by
  rw [exponentPart?.eq_def]
  split
  · exact absurd rfl (h _ rfl).2.2.1
  · exact absurd rfl (h _ rfl).2.2.2
  · rfl

/-- The numeral of an integer: its sign, its digits, no fraction and no exponent. -/
theorem numeral?_ofInt (i : Int) {rest : Text} (h : IsDelimited rest) :
    numeral? (Text.ofInt i ++ rest)
      = some (⟨decide (i < 0), Text.ofNat i.natAbs, [], 0, false⟩, rest) := by
  obtain ⟨d, ds, hd⟩ := List.exists_cons_of_ne_nil (Text.ofNat_ne_nil i.natAbs)
  have hdigit : d.isDigit = true := Text.isDigit_of_mem_ofNat (hd ▸ List.mem_cons_self)
  rw [numeral?.eq_def]
  split
  next negative s hsplit =>
  have hsign : (negative, s) = (decide (i < 0), Text.ofNat i.natAbs ++ rest) := by
    rw [← hsplit, Text.ofInt]
    by_cases hi : i < 0
    · simp only [hi, if_true, decide_true, List.cons_append]
    · simp only [hi, if_false, decide_false]
      split
      · next heq =>
        rw [hd] at heq
        obtain rfl := (List.cons.inj heq).1
        exact absurd hdigit (by decide)
      · rfl
  cases hsign
  rw [wholeDigits_ofNat _ h, hd]
  dsimp only
  rw [fractionDigits_of_isDelimited h]
  dsimp only
  rw [exponentPart?_of_isDelimited h]
  rfl

/-- An integer begins with a digit, or with a sign and a digit. -/
theorem exists_ofInt_eq (i : Int) : ∃ d ds, d.isDigit = true
    ∧ (Text.ofInt i = d :: ds ∨ Text.ofInt i = .char '-' :: d :: ds) := by
  obtain ⟨d, ds, hd⟩ := List.exists_cons_of_ne_nil (Text.ofNat_ne_nil i.natAbs)
  refine ⟨d, ds, Text.isDigit_of_mem_ofNat (hd ▸ List.mem_cons_self), ?_⟩
  rw [Text.ofInt, ← hd]
  split
  · exact Or.inr rfl
  · exact Or.inl rfl

/-- No word begins with a digit. -/
theorem word?_of_isDigit {d : CodePoint} (hdigit : d.isDigit = true) (rest : Text) :
    word? (d :: rest) = none := by
  rw [word?]
  all_goals
    intro rest heq
    obtain ⟨rfl, -⟩ := List.cons.inj heq
    exact absurd hdigit (by decide)

/-- No word begins with a sign and a digit. -/
theorem word?_of_minus {d : CodePoint} (hdigit : d.isDigit = true) (rest : Text) :
    word? (.char '-' :: d :: rest) = none := by
  rw [word?]
  all_goals
    intro rest heq
    obtain ⟨hc, hd⟩ := List.cons.inj heq
    first
    | exact absurd hc (by decide)
    | obtain ⟨rfl, -⟩ := List.cons.inj hd
      exact absurd hdigit (by decide)

/-- No integer is taken for a word. -/
theorem word?_ofInt (i : Int) (rest : Text) : word? (Text.ofInt i ++ rest) = none := by
  obtain ⟨d, ds, hdigit, h | h⟩ := exists_ofInt_eq i
  · rw [h, List.cons_append]
    exact word?_of_isDigit hdigit _
  · rw [h, List.cons_append, List.cons_append]
    exact word?_of_minus hdigit _

/-- **An integer within the digit limit reads back.** -/
theorem scalar_ofInt {i : Int} (hi : Text.IsShort i) {rest : Text}
    (h : IsDelimited rest) : scalar (Text.ofInt i ++ rest) = .ok (.int i, rest) := by
  have hlength : ¬ (Text.ofNat i.natAbs).length > Text.digitLimit :=
    Nat.not_lt.mpr (Text.length_ofNat_of_isShort hi)
  rw [scalar, word?_ofInt, numeral?_ofInt i h]
  dsimp only
  rw [Numeral.value, if_neg Bool.false_ne_true, if_neg hlength, Text.toNat_ofNat]
  have hvalue : (if decide (i < 0) = true then -(i.natAbs : Int) else i.natAbs) = i := by
    by_cases hneg : i < 0
    · rw [decide_eq_true hneg, if_pos rfl]
      omega
    · rw [decide_eq_false hneg, if_neg Bool.false_ne_true]
      omega
  exact congrArg (fun i => Except.ok (Value.int i, rest)) hvalue

end RichText.Json
