import RichText.Proofs.Ascii
import RichText.Url.Percent
import RichText.Url.Resolve

/-!
# Proofs/Quote — what a quoted address stands for

    a  %  2  0  é      bytes of an address:   a  %20  C3 A9
    a  %  2  0  %C3%A9    of its quotation:   a  %20  %C3 %A9

A byte that may not stand in a field argument becomes an escape, and the percent sign is left alone.
No digit of an escape is ever quoted, and a quotation begins with a percent sign, which is no digit; so
an escape stays one, and what is none does not become one (`parts_quotedBytes`).
-/

namespace RichText.Url

/-- **A code point that may stand in a field argument**: visible ASCII that neither ends the argument nor
is read as markup. -/
def IsArgumentPoint (c : CodePoint) : Prop :=
  0x20 < c.code ∧ c.code < 0x7F ∧ c ∉ [CodePoint.char '"', .char '\\', .char '\x7b', .char '\x7d']

instance (c : CodePoint) : Decidable (IsArgumentPoint c) := inferInstanceAs (Decidable (_ ∧ _))

/-! ## Bytes and their quotations -/

/-- The bytes a byte is quoted as. -/
def quotedByte (b : UInt8) : List UInt8 := (quoteByte b).asciiBytes

/-- The bytes that bytes are quoted as. -/
def quotedBytes (bytes : List UInt8) : List UInt8 := bytes.flatMap quotedByte

theorem asciiBytes_quoteBytes (bytes : List UInt8) :
    (quoteBytes bytes).asciiBytes = quotedBytes bytes := List.map_flatMap

theorem quotedByte_of_isSafe {b : UInt8} (h : isSafe b = true) : quotedByte b = [b] := by
  have key : ∀ n : Fin 256, isSafe (.ofFin n) = true → quotedByte (.ofFin n) = [.ofFin n] := by
    decide +kernel
  exact key b.toFin h

/-- What is not safe is quoted as an escape of it. -/
theorem quotedByte_of_not_isSafe {b : UInt8} (h : isSafe b = false) :
    ∃ high low, quotedByte b = [0x25, high, low] ∧ escapedByte? [high, low] = some b
      ∧ (Part.byte b).quoted = [.escape high low] := by
  have key : ∀ n : Fin 256, isSafe (.ofFin n) = false →
      let high : UInt8 := .ofNat (hexDigit ((UInt8.ofFin n).toNat / 16)).toNat
      let low : UInt8 := .ofNat (hexDigit ((UInt8.ofFin n).toNat % 16)).toNat
      quotedByte (.ofFin n) = [0x25, high, low] ∧ escapedByte? [high, low] = some (.ofFin n) := by
    decide +kernel
  obtain ⟨hbytes, hvalue⟩ := key b.toFin h
  refine ⟨_, _, hbytes, hvalue, ?_⟩
  rw [Part.quoted, h, if_neg Bool.false_ne_true]
  rfl

/-- Digits are safe. -/
theorem isSafe_of_hexValue? {b : UInt8} (h : (hexValue? b).isSome = true) : isSafe b = true := by
  have key : ∀ n : Fin 256, (hexValue? (.ofFin n)).isSome = true → isSafe (.ofFin n) = true := by
    decide +kernel
  exact key b.toFin h

theorem isArgumentPoint_of_mem_quoteByte {b : UInt8} {c : CodePoint} (h : c ∈ quoteByte b) :
    IsArgumentPoint c := by
  have key : ∀ n : Fin 256, ∀ c ∈ quoteByte (.ofFin n), IsArgumentPoint c := by decide +kernel
  exact key b.toFin c h

/-- **What is quoted is not quoted further.** -/
theorem quoteBytes_quotedBytes (bytes : List UInt8) :
    quoteBytes (quotedBytes bytes) = quoteBytes bytes := by
  have key : ∀ n : Fin 256, quoteBytes (quotedByte (.ofFin n)) = quoteByte (.ofFin n) := by
    decide +kernel
  rw [quoteBytes, quotedBytes, List.flatMap_assoc, quoteBytes]
  exact congrArg (bytes.flatMap ·) (funext fun b => key b.toFin)

theorem quotedBytes_cons (b : UInt8) (rest : List UInt8) :
    quotedBytes (b :: rest) = quotedByte b ++ quotedBytes rest := List.flatMap_cons

/-! ## Parts -/

theorem escapedByte?_cons_cons (a b : UInt8) (rest : List UInt8) :
    escapedByte? (a :: b :: rest) = escapedByte? [a, b] := rfl

/-- A single byte is no digits of an escape. -/
theorem escapedByte?_of_short {rest : List UInt8}
    (h : ∀ a b more, rest = a :: b :: more → False) : escapedByte? rest = none := by
  match rest with
  | [] => rfl
  | [_] => rfl
  | a :: b :: more => exact (h a b more rfl).elim

/-- Two bytes of which one is no digit are the digits of no escape. -/
theorem escapedByte?_eq_none {a b : UInt8} (h : hexValue? a = none ∨ hexValue? b = none)
    (rest : List UInt8) : escapedByte? (a :: b :: rest) = none := by
  rw [escapedByte?]
  cases ha : hexValue? a with
  | none => rfl
  | some m =>
    rw [h.resolve_left (by simp [ha])]
    rfl

theorem hexValue?_of_escapedByte? {a b : UInt8} (h : (escapedByte? [a, b]).isSome = true) :
    (hexValue? a).isSome = true ∧ (hexValue? b).isSome = true := by
  rw [escapedByte?] at h
  cases ha : hexValue? a with
  | none => rw [ha] at h; cases h
  | some m =>
    cases hb : hexValue? b with
    | none => rw [ha, hb] at h; cases h
    | some n => exact ⟨rfl, rfl⟩

theorem isEscape_iff {mark high low : UInt8} :
    isEscape mark high low = true ↔ mark = 0x25 ∧ (escapedByte? [high, low]).isSome = true := by
  rw [isEscape, Bool.and_eq_true, beq_iff_eq]

/-- An escape, and the parts behind it. -/
theorem parts_escape {high low : UInt8} (h : (escapedByte? [high, low]).isSome = true)
    (rest : List UInt8) : parts (0x25 :: high :: low :: rest) = .escape high low :: parts rest := by
  rw [parts, if_pos (isEscape_iff.mpr ⟨rfl, h⟩)]

/-- A byte that begins no escape, and the parts behind it. -/
theorem parts_byte {b : UInt8} {rest : List UInt8} (h : b = 0x25 → escapedByte? rest = none) :
    parts (b :: rest) = .byte b :: parts rest := by
  match rest with
  | [] => rfl
  | [x] => rfl
  | high :: low :: rest =>
    have hescape : isEscape b high low = false := by
      rw [← Bool.not_eq_true, isEscape_iff]
      rintro ⟨hb, hsome⟩
      rw [← escapedByte?_cons_cons high low rest, h hb] at hsome
      cases hsome
    rw [parts, hescape, if_neg Bool.false_ne_true]

/-- What is no digit is none when it is quoted. -/
theorem hexValue?_head_quotedByte {b : UInt8} (h : hexValue? b = none) :
    ∃ c more, quotedByte b = c :: more ∧ hexValue? c = none := by
  cases hsafe : isSafe b with
  | true => exact ⟨b, [], quotedByte_of_isSafe hsafe, h⟩
  | false =>
    obtain ⟨high, low, hquoted, -⟩ := quotedByte_of_not_isSafe hsafe
    exact ⟨0x25, [high, low], hquoted, by decide⟩

/-- **Quoting keeps what digits of an escape a text begins with**, and makes none. -/
theorem escapedByte?_quotedBytes (bytes : List UInt8) :
    escapedByte? (quotedBytes bytes) = escapedByte? bytes := by
  -- Only the first two bytes are looked at, so the cases are whether each of them is a digit.
  match bytes with
  | [] => rfl
  | [a] =>
    cases ha : isSafe a with
    | true => rw [quotedBytes_cons, quotedByte_of_isSafe ha]; rfl
    | false =>
      obtain ⟨high, low, hquoted, -⟩ := quotedByte_of_not_isSafe ha
      rw [quotedBytes_cons, hquoted]
      exact escapedByte?_eq_none (.inl (by decide)) _
  | a :: b :: rest =>
    cases ha : hexValue? a with
    | none =>
      obtain ⟨c, more, hquoted, hc⟩ := hexValue?_head_quotedByte ha
      rw [escapedByte?_eq_none (.inl ha), quotedBytes_cons, hquoted, List.cons_append]
      cases more ++ quotedBytes (b :: rest) with
      | nil => rfl
      | cons d rest => exact escapedByte?_eq_none (.inl hc) _
    | some m =>
      have hsafe : isSafe a = true := isSafe_of_hexValue? (by rw [ha]; rfl)
      rw [quotedBytes_cons, quotedByte_of_isSafe hsafe, quotedBytes_cons, List.singleton_append]
      cases hb : hexValue? b with
      | none =>
        obtain ⟨c, more, hquoted, hc⟩ := hexValue?_head_quotedByte hb
        rw [escapedByte?_eq_none (.inr hb), hquoted, List.cons_append]
        exact escapedByte?_eq_none (.inr hc) _
      | some n =>
        have hsafe' : isSafe b = true := isSafe_of_hexValue? (by rw [hb]; rfl)
        rw [quotedByte_of_isSafe hsafe']
        rfl

/-- A byte that begins no escape is a part when it is quoted, too. -/
theorem parts_quotedBytes_byte {b : UInt8} {rest : List UInt8}
    (h : b = 0x25 → escapedByte? rest = none) :
    parts (quotedBytes (b :: rest)) = (Part.byte b).quoted ++ parts (quotedBytes rest) := by
  rw [quotedBytes_cons]
  cases hsafe : isSafe b with
  | true =>
    rw [quotedByte_of_isSafe hsafe, Part.quoted, hsafe, if_pos rfl]
    exact parts_byte fun hb => (escapedByte?_quotedBytes rest).trans (h hb)
  | false =>
    obtain ⟨high, low, hquoted, hvalue, hpart⟩ := quotedByte_of_not_isSafe hsafe
    rw [hquoted, hpart]
    exact parts_escape (by rw [hvalue]; rfl) _

/-- **The parts of a quotation are those of what is quoted**, one by one: no escape is lost, and none is
made of what were two parts. -/
theorem parts_quotedBytes (bytes : List UInt8) :
    parts (quotedBytes bytes) = (parts bytes).flatMap Part.quoted := by
  fun_induction parts bytes with
  | case1 mark high low rest hescape ih =>
    obtain ⟨rfl, hvalue⟩ := isEscape_iff.mp hescape
    obtain ⟨hhigh, hlow⟩ := hexValue?_of_escapedByte? hvalue
    rw [quotedBytes_cons, quotedBytes_cons, quotedBytes_cons, quotedByte_of_isSafe (by decide),
      quotedByte_of_isSafe (isSafe_of_hexValue? hhigh),
      quotedByte_of_isSafe (isSafe_of_hexValue? hlow), List.flatMap_cons, ← ih]
    exact parts_escape hvalue _
  | case2 mark high low rest hescape ih =>
    rw [List.flatMap_cons, ← ih]
    refine parts_quotedBytes_byte fun hmark => ?_
    rw [isEscape_iff, not_and] at hescape
    exact Option.not_isSome_iff_eq_none.mp (hescape hmark)
  | case3 b rest hshort ih =>
    rw [List.flatMap_cons, ← ih]
    exact parts_quotedBytes_byte fun _ => escapedByte?_of_short hshort
  | case4 => rfl

/-! ## What parts stand for -/

theorem percentDecode_byte {b : UInt8} {rest : List UInt8}
    (h : b = 0x25 → escapedByte? rest = none) :
    percentDecode (b :: rest) = b :: percentDecode rest := by
  have hnone : (if b == 0x25 then escapedByte? rest else none) = none := by
    split
    · next hb => exact h (beq_iff_eq.mp hb)
    · rfl
  rw [percentDecode, percentDecodeFrom, hnone]
  rfl

theorem percentDecode_escape {high low x : UInt8} (h : escapedByte? [high, low] = some x)
    (rest : List UInt8) :
    percentDecode (0x25 :: high :: low :: rest) = x :: percentDecode rest := by
  rw [percentDecode, percentDecodeFrom, beq_self_eq_true, if_pos rfl, escapedByte?_cons_cons, h]
  rfl

/-- **What bytes stand for** is what their parts stand for. -/
theorem percentDecode_eq (bytes : List UInt8) :
    percentDecode bytes = (parts bytes).map Part.value := by
  fun_induction parts bytes with
  | case1 mark high low rest hescape ih =>
    obtain ⟨rfl, hvalue⟩ := isEscape_iff.mp hescape
    obtain ⟨x, hx⟩ := Option.isSome_iff_exists.mp hvalue
    rw [percentDecode_escape hx, List.map_cons, Part.value, hx, ih]
    rfl
  | case2 mark high low rest hescape ih =>
    rw [List.map_cons, ← ih]
    refine percentDecode_byte fun hmark => ?_
    rw [isEscape_iff, not_and] at hescape
    exact Option.not_isSome_iff_eq_none.mp (hescape hmark)
  | case3 b rest hshort ih =>
    rw [List.map_cons, ← ih]
    exact percentDecode_byte fun _ => escapedByte?_of_short hshort
  | case4 => rfl

/-- A part stands for the same when it is quoted. -/
theorem map_value_quoted (p : Part) : p.quoted.map Part.value = [p.value] := by
  cases p with
  | escape high low => rfl
  | byte b =>
    cases hsafe : isSafe b with
    | true => rw [Part.quoted, hsafe, if_pos rfl]; rfl
    | false =>
      obtain ⟨high, low, -, hvalue, hpart⟩ := quotedByte_of_not_isSafe hsafe
      rw [hpart, List.map_singleton, Part.value, hvalue]
      rfl

/-- **A quotation stands for the same bytes.** -/
theorem percentDecode_quotedBytes (bytes : List UInt8) :
    percentDecode (quotedBytes bytes) = percentDecode bytes := by
  rw [percentDecode_eq, percentDecode_eq, parts_quotedBytes, List.map_flatMap]
  induction parts bytes with
  | nil => rfl
  | cons p rest ih => rw [List.flatMap_cons, map_value_quoted, ih]; rfl

/-! ## Quoted addresses -/

/-- **A quoted address leads where the address leads.**  It stands between quotation marks, and within
them there is neither a code point that ends the argument nor one that is read as markup.  Percent
escapes in it stand for the same bytes as those of the address: every escape of the address is kept,
whatever else may not stand there becomes one, and a percent sign without digits behind it does not.
Quoting it again changes nothing. -/
theorem quote_keeps_target {t : Text} {bytes : List UInt8} (h : t.utf8? = some bytes) :
    ∃ inner innerBytes, quote (.text t) = .ok ("\"" ++ inner ++ "\"")
      ∧ (∀ c ∈ inner, IsArgumentPoint c)
      ∧ inner.utf8? = some innerBytes
      ∧ percentDecode innerBytes = percentDecode bytes
      ∧ parts innerBytes = (parts bytes).flatMap Part.quoted
      ∧ quote (.text inner) = .ok ("\"" ++ inner ++ "\"") := by
  have hpoint : ∀ c ∈ quoteBytes bytes, IsArgumentPoint c := by
    intro c hc
    obtain ⟨b, -, hb⟩ := List.mem_flatMap.mp hc
    exact isArgumentPoint_of_mem_quoteByte hb
  have hascii : (quoteBytes bytes).IsAscii := fun c hc =>
    decide_eq_true (Nat.lt_trans (hpoint c hc).2.1 (by decide))
  have hbytes : (quoteBytes bytes).utf8? = some (quotedBytes bytes) := by
    rw [hascii.utf8?_eq, asciiBytes_quoteBytes]
  have hquote {s : Text} {b : List UInt8} (hs : s.utf8? = some b) :
      quote (.text s) = .ok ("\"" ++ quoteBytes b ++ "\"") := by
    rw [quote, Text.toUtf8, hs]
    rfl
  refine ⟨quoteBytes bytes, quotedBytes bytes, hquote h, hpoint, hbytes,
    percentDecode_quotedBytes bytes, parts_quotedBytes bytes, ?_⟩
  rw [hquote hbytes, quoteBytes_quotedBytes]

/-- A truncated escape in front of a letter beyond ASCII, and a whole one behind it. -/
theorem quote_keeps_target_sample :
    let t : Text := "%2é%20"
    t.utf8? = some [0x25, 0x32, 0xC3, 0xA9, 0x25, 0x32, 0x30]
      ∧ quote (.text t) = .ok "\"%2%C3%A9%20\""
      ∧ ∃ inner innerBytes, quote (.text t) = .ok ("\"" ++ inner ++ "\"")
        ∧ inner.utf8? = some innerBytes
        ∧ percentDecode innerBytes = [0x25, 0x32, 0xC3, 0xA9, 0x20] := by
  intro t
  have hbytes : t.utf8? = some [0x25, 0x32, 0xC3, 0xA9, 0x25, 0x32, 0x30] := by decide
  obtain ⟨inner, innerBytes, hquote, -, hinner, hdecode, -⟩ := quote_keeps_target hbytes
  exact ⟨hbytes, rfl, inner, innerBytes, hquote, hinner, hdecode.trans (by decide)⟩

end RichText.Url
