import RichText.Image.Base64
import RichText.Text.Class

/-!
# Proofs/Base64 — bytes read back from their spellings

    bytes ──encode──▸ four characters for three bytes, padding ──decode──▸ bytes
    bytes ──ofBytes──▸ two hexadecimal digits for a byte ──hexBytes?──▸ bytes

Both spellings go through the bytes group by group.  Reading base64 counts the sextets it has read, and
a group of four leaves the count where it was modulo four, so the groups are read one by one
(`exists_sextets_encode`); the last one is shorter, and its padding tells by how much.
-/

namespace RichText

namespace Base64

/-! ## Characters -/

theorem sextet?_sextetChar {n : Nat} (h : n < 64) : sextet? (.char (sextetChar n)) = some n := by
  have key : ∀ n : Fin 64, sextet? (.char (sextetChar n)) = some n.val := by decide
  exact key ⟨n, h⟩

theorem sextetChar_ne_padding {n : Nat} (h : n < 64) : CodePoint.char (sextetChar n) ≠ .char '=' := by
  have key : ∀ n : Fin 64, CodePoint.char (sextetChar n) ≠ .char '=' := by decide
  exact key ⟨n, h⟩

/-- **The code points that spell bytes**: characters of six bits, and padding. -/
def IsSpelling (c : CodePoint) : Prop := c = .char '=' ∨ ∃ n : Fin 64, c = .char (sextetChar n)

theorem isSpelling_sextetChar {n : Nat} (h : n < 64) : IsSpelling (.char (sextetChar n)) :=
  .inr ⟨⟨n, h⟩, rfl⟩

/-- What holds of the code points that spell bytes is seen by trying them. -/
theorem IsSpelling.of_forall {p : CodePoint → Bool} (hpadding : p (.char '=') = true)
    (hp : ∀ n : Fin 64, p (.char (sextetChar n)) = true) {c : CodePoint} (h : IsSpelling c) :
    p c = true := by
  obtain rfl | ⟨n, rfl⟩ := h
  · exact hpadding
  · exact hp n

theorem IsSpelling.isAscii {c : CodePoint} (h : IsSpelling c) : c.isAscii = true :=
  h.of_forall rfl (by decide)

theorem IsSpelling.isBlank {c : CodePoint} (h : IsSpelling c) : c.isBlank = false := by
  simpa using h.of_forall (p := fun c => !c.isBlank) (by decide) (by decide)

theorem isSpelling_of_mem_encode {bytes : List UInt8} {c : CodePoint} (h : c ∈ encode bytes) :
    IsSpelling c := by
  fun_induction encode bytes with
  | case1 a b c rest ih =>
    have ha := a.toNat_lt
    have hb := b.toNat_lt
    have hc := c.toNat_lt
    simp only [List.mem_cons] at h
    obtain rfl | rfl | rfl | rfl | h := h
    · exact isSpelling_sextetChar (by omega)
    · exact isSpelling_sextetChar (by omega)
    · exact isSpelling_sextetChar (by omega)
    · exact isSpelling_sextetChar (by omega)
    · exact ih h
  | case2 a b =>
    have ha := a.toNat_lt
    have hb := b.toNat_lt
    simp only [List.mem_cons, List.not_mem_nil, or_false] at h
    obtain rfl | rfl | rfl | rfl := h
    · exact isSpelling_sextetChar (by omega)
    · exact isSpelling_sextetChar (by omega)
    · exact isSpelling_sextetChar (by omega)
    · exact .inl rfl
  | case3 a =>
    have ha := a.toNat_lt
    simp only [List.mem_cons, List.not_mem_nil, or_false] at h
    obtain rfl | rfl | rfl | rfl := h
    · exact isSpelling_sextetChar (by omega)
    · exact isSpelling_sextetChar (by omega)
    · exact .inl rfl
    · exact .inl rfl
  | case4 => exact absurd h List.not_mem_nil

/-! ## Groups -/

/-- A character is read as its sextet. -/
theorem sextets_cons {n : Nat} (h : n < 64) (done : Nat) (rest : Text) :
    sextets done 0 false (.char (sextetChar n) :: rest)
      = (sextets (done + 1) 0 false rest).map (n :: ·) := by
  rw [sextets, if_neg (sextetChar_ne_padding h), sextet?_sextetChar h]
  dsimp only
  rw [if_neg Bool.false_ne_true]
  cases sextets (done + 1) 0 false rest <;> rfl

/-- A byte put together from the sextets it has been cut into. -/
theorem ofNat_eq {n : Nat} {a : UInt8} (h : n = a.toNat) : UInt8.ofNat n = a := by
  rw [h, UInt8.ofNat_toNat]

/-- **The sextets of spelled bytes** are read, and they are those of the bytes. -/
theorem exists_sextets_encode (bytes : List UInt8) (done : Nat) (hdone : done % 4 = 0) :
    ∃ ns, sextets done 0 false (encode bytes) = .ok ns ∧ bytesOf ns = bytes := by
  fun_induction encode bytes generalizing done with
  | case1 a b c rest ih =>
    have ha := a.toNat_lt
    have hb := b.toNat_lt
    have hc := c.toNat_lt
    obtain ⟨ns, hns, hbytes⟩ := ih (done + 1 + 1 + 1 + 1) (by omega)
    refine ⟨a.toNat / 4 :: (a.toNat % 4 * 16 + b.toNat / 16) :: (b.toNat % 16 * 4 + c.toNat / 64)
      :: c.toNat % 64 :: ns, ?_, ?_⟩
    · rw [sextets_cons (by omega), sextets_cons (by omega), sextets_cons (by omega),
        sextets_cons (by omega), hns]
      rfl
    · rw [bytesOf, hbytes, ofNat_eq (a := a) (by omega), ofNat_eq (a := b) (by omega),
        ofNat_eq (a := c) (by omega)]
  | case2 a b =>
    have ha := a.toNat_lt
    have hb := b.toNat_lt
    refine ⟨[a.toNat / 4, a.toNat % 4 * 16 + b.toNat / 16, b.toNat % 16 * 4], ?_, ?_⟩
    · have hpadding : sextets (done + 1 + 1 + 1) 0 false [.char '='] = .ok [] := by
        rw [sextets, if_pos rfl, if_pos (by omega), if_pos (by omega)]
        rfl
      rw [sextets_cons (by omega), sextets_cons (by omega), sextets_cons (by omega), hpadding]
      rfl
    · rw [bytesOf, ofNat_eq (a := a) (by omega), ofNat_eq (a := b) (by omega)]
  | case3 a =>
    have ha := a.toNat_lt
    refine ⟨[a.toNat / 4, a.toNat % 4 * 16], ?_, ?_⟩
    · have hpadding : sextets (done + 1 + 1) 0 false [.char '=', .char '='] = .ok [] := by
        rw [sextets, if_pos rfl, if_pos (by omega), if_neg (by omega), sextets, if_pos rfl,
          if_pos (by omega), if_pos (by omega)]
        rfl
      rw [sextets_cons (by omega), sextets_cons (by omega), hpadding]
      rfl
    · rw [bytesOf, ofNat_eq (a := a) (by omega)]
  | case4 =>
    refine ⟨[], ?_, rfl⟩
    rw [sextets, hdone]
    rfl

theorem encode_ne_nil {bytes : List UInt8} (h : bytes ≠ []) : encode bytes ≠ [] := by
  fun_cases encode bytes with
  | case4 => exact absurd rfl h
  | _ => exact List.cons_ne_nil _ _

theorem head?_encode_ne (bytes : List UInt8) : (encode bytes).head? ≠ some (.char '=') := by
  fun_cases encode bytes with
  | case1 a b c rest =>
    have ha := a.toNat_lt
    exact fun h => sextetChar_ne_padding (by omega) (Option.some_inj.mp h)
  | case2 a b =>
    have ha := a.toNat_lt
    exact fun h => sextetChar_ne_padding (by omega) (Option.some_inj.mp h)
  | case3 a =>
    have ha := a.toNat_lt
    exact fun h => sextetChar_ne_padding (by omega) (Option.some_inj.mp h)
  | case4 => exact nofun

/-- **Bytes are read back from what spells them.** -/
theorem decode_encode (bytes : List UInt8) : decode (encode bytes) = .ok bytes := by
  have hascii : ((encode bytes).any fun c => !c.isAscii) = false :=
    List.any_eq_false.mpr fun c hc => by
      rw [(isSpelling_of_mem_encode hc).isAscii]
      exact Bool.false_ne_true
  obtain ⟨ns, hns, hbytes⟩ := exists_sextets_encode bytes 0 rfl
  rw [decode, hascii, if_neg Bool.false_ne_true, if_neg (head?_encode_ne bytes), hns]
  exact congrArg Except.ok hbytes

end Base64

namespace Text

/-! ## Hexadecimal digits -/

/-- The number of a hexadecimal digit, where letters are lower case. -/
def hexDigit? : CodePoint → Option Nat
  | .char c =>
    if '0' ≤ c ∧ c ≤ '9' then some (c.toNat - 48)
    else if 'a' ≤ c ∧ c ≤ 'f' then some (c.toNat - 87)
    else none
  | _ => none

/-- **The bytes that hexadecimal digits spell**, two digits a byte. -/
def hexBytes? : Text → Option (List UInt8)
  | [] => some []
  | [_] => none
  | a :: b :: rest => do
    let high ← hexDigit? a
    let low ← hexDigit? b
    return .ofNat (high * 16 + low) :: (← hexBytes? rest)

/-- The two digits of a byte are those of its halves. -/
theorem exists_paddedHex_eq (b : UInt8) : ∃ high low, paddedHex 2 b.toNat = [high, low]
    ∧ hexDigit? high = some (b.toNat / 16) ∧ hexDigit? low = some (b.toNat % 16) := by
  have key : ∀ n : Fin 256, (paddedHex 2 n).map hexDigit?
      = [some (n.val / 16), some (n.val % 16)] := by decide +kernel
  have hb : (paddedHex 2 b.toNat).map hexDigit? = [some (b.toNat / 16), some (b.toNat % 16)] :=
    key b.toFin
  obtain ⟨high, rest, hdigits, hhigh, hrest⟩ := List.map_eq_cons_iff.mp hb
  obtain ⟨low, rest, rfl, hlow, hnil⟩ := List.map_eq_cons_iff.mp hrest
  rw [List.map_eq_nil_iff.mp hnil] at hdigits
  exact ⟨high, low, hdigits, hhigh, hlow⟩

/-- A byte is read back from its two digits, whatever follows. -/
theorem hexBytes?_paddedHex_append (b : UInt8) (rest : Text) :
    hexBytes? (paddedHex 2 b.toNat ++ rest) = (hexBytes? rest).map (b :: ·) := by
  obtain ⟨high, low, hdigits, hhigh, hlow⟩ := exists_paddedHex_eq b
  have hb : UInt8.ofNat (b.toNat / 16 * 16 + b.toNat % 16) = b := Base64.ofNat_eq (by omega)
  rw [hdigits, List.cons_append, List.cons_append, List.nil_append, hexBytes?, hhigh, hlow]
  dsimp only [bind, Option.bind]
  rw [hb]
  cases hexBytes? rest <;> rfl

/-- **Bytes are read back from their digits.** -/
theorem hexBytes?_ofBytes (bytes : List UInt8) : hexBytes? (ofBytes bytes) = some bytes := by
  induction bytes with
  | nil => rfl
  | cons b rest ih =>
    rw [ofBytes, List.flatMap_cons, hexBytes?_paddedHex_append]
    exact congrArg (Option.map (b :: ·)) ih

end Text

end RichText
