import Mathlib.Data.List.TakeDrop
import RichText.Text.Class
import RichText.Text.Numeral

/-!
# Proofs/Numeral — decimal numerals read back

A numeral consists of ASCII digits (`isDigit_of_mem_padded`), no more of them than its number asks
for (`length_ofNat_le_iff`), none of them a leading zero (`ofNat_eq_zero_cons`), and it spells its
number, filled with zeros or not (`toNat_padded`).  Where it ends is seen from what follows it
(`span_append`).
-/

namespace RichText.Text

/-! ## The digits of a numeral -/

theorem isDigit_of_mem_ofNat {c : CodePoint} {n : Nat} (h : c ∈ ofNat n) : c.isDigit = true := by
  obtain ⟨d, hd, rfl⟩ := List.mem_map.mp h
  exact Nat.isDigit_of_mem_toDigits (by decide) (by decide) hd

/-- The zeros in front of a numeral are digits, as the numeral is. -/
theorem isDigit_of_mem_padded {c : CodePoint} {width n : Nat} (h : c ∈ padded width n) :
    c.isDigit = true := by
  rcases List.mem_append.mp h with hz | hn
  · rw [List.eq_of_mem_replicate hz]
    rfl
  · exact isDigit_of_mem_ofNat hn

/-- The numeral of an integer has a sign at most besides its digits. -/
theorem mem_ofInt {c : CodePoint} {i : Int} (h : c ∈ ofInt i) :
    c = .char '-' ∨ c.isDigit = true := by
  rw [ofInt] at h
  split at h
  · exact (List.mem_cons.mp h).imp_right isDigit_of_mem_ofNat
  · exact Or.inr (isDigit_of_mem_ofNat h)

theorem mem_paddedInt {c : CodePoint} {width : Nat} {i : Int} (h : c ∈ paddedInt width i) :
    c = .char '-' ∨ c.isDigit = true := by
  rw [paddedInt] at h
  split at h
  · exact (List.mem_cons.mp h).imp_right isDigit_of_mem_padded
  · exact Or.inr (isDigit_of_mem_padded h)

theorem length_ofNat (n : Nat) : (ofNat n).length = (Nat.toDigits 10 n).length := List.length_map _

/-- Zero has a digit as well. -/
theorem ofNat_ne_nil (n : Nat) : ofNat n ≠ [] := by
  rw [← List.length_pos_iff, length_ofNat]
  exact Nat.length_toDigits_pos

/-- A numeral is as short as its number allows. -/
theorem length_ofNat_le_iff {n k : Nat} (hk : 0 < k) :
    (ofNat n).length ≤ k ↔ n < Nat.pow 10 k := by
  rw [length_ofNat]
  exact Nat.length_toDigits_le_iff (by decide) hk

/-- A field is as wide as asked for, or as its numeral. -/
theorem length_padded (width n : Nat) :
    (padded width n).length = max width (ofNat n).length := by
  rw [padded, zeroFilled, List.length_append, List.length_replicate]
  omega

/-- An integer that is read and written: one with at most `digitLimit` digits. -/
def IsShort (i : Int) : Prop := i.natAbs < Nat.pow 10 digitLimit

instance (i : Int) : Decidable (IsShort i) := inferInstanceAs (Decidable (_ < _))

theorem length_ofNat_of_isShort {i : Int} (h : IsShort i) :
    (ofNat i.natAbs).length ≤ digitLimit := by
  exact (length_ofNat_le_iff (by decide)).mpr h

/-- A number below a power of ten has no more digits than the exponent says. -/
theorem isShort_of_natAbs_lt_pow {i : Int} {k : Nat} (hk : k ≤ digitLimit)
    (h : i.natAbs < Nat.pow 10 k) : IsShort i := by
  have key (n : Nat) (hn : k ≤ n) : Nat.pow 10 k ≤ Nat.pow 10 n :=
    Nat.pow_le_pow_right (by decide) hn
  exact Nat.lt_of_lt_of_le h (key digitLimit hk)

/-- A one with as many zeros as there may be digits has too many digits. -/
theorem not_isShort_pow {k : Nat} (hk : digitLimit ≤ k) : ¬ IsShort (Nat.pow 10 k : Nat) := by
  have key (n : Nat) (hn : n ≤ k) : Nat.pow 10 n ≤ Nat.pow 10 k := Nat.pow_le_pow_right (by decide) hn
  rw [IsShort, Int.natAbs_natCast]
  exact Nat.not_lt.mpr (key digitLimit hk)

theorem isShort_of_natAbs_lt_ten {i : Int} (h : i.natAbs < 10) : IsShort i :=
  isShort_of_natAbs_lt_pow (k := 1) (by decide) h

/-- Only the numeral of zero begins with a zero. -/
theorem ofNat_eq_zero_cons {n : Nat} {rest : Text} (h : ofNat n = .char '0' :: rest) :
    n = 0 ∧ rest = [] := by
  have key : ∀ m : Nat, 0 < m → ∃ d ds, Nat.toDigits 10 m = d :: ds ∧ d ≠ '0' := by
    intro m
    induction m using Nat.strongRecOn with
    | ind m ih =>
      intro hm
      by_cases hlt : m < 10
      · refine ⟨Nat.digitChar m, [], Nat.toDigits_of_lt_base hlt, ?_⟩
        rw [Ne, Nat.digitChar_eq_zero]
        omega
      · obtain ⟨d, ds, hds, hd⟩ := ih (m / 10) (by omega) (by omega)
        refine ⟨d, ds ++ [Nat.digitChar (m % 10)], ?_, hd⟩
        rw [Nat.toDigits_of_base_le (by decide) (by omega), hds, List.cons_append]
  rcases Nat.eq_zero_or_pos n with rfl | hn
  · rw [ofNat, Nat.toDigits_zero] at h
    cases h
    exact ⟨rfl, rfl⟩
  · obtain ⟨d, ds, hds, hd⟩ := key n hn
    rw [ofNat, hds, ofChars, List.map_cons] at h
    cases h
    exact absurd rfl hd

/-! ## The number of a numeral -/

/-- Digits are read from the first to the last. -/
theorem toNat_ofChars (cs : List Char) : toNat (ofChars cs) = Nat.ofDigitChars 10 cs 0 := by
  have key : ∀ init : Nat, (ofChars cs).foldl (fun n c => n * 10 + (c.code - 48)) init
      = Nat.ofDigitChars 10 cs init := by
    induction cs with
    | nil => exact fun init => rfl
    | cons c rest ih =>
      intro init
      rw [ofChars, List.map_cons, List.foldl_cons, Nat.ofDigitChars_cons, Nat.mul_comm 10]
      exact ih _
  exact key 0

/-- A numeral spells its number. -/
@[simp] theorem toNat_ofNat (n : Nat) : toNat (ofNat n) = n := by
  rw [ofNat, toNat_ofChars, Nat.ofDigitChars_ten_toDigits]

/-- **A numeral filled with zeros spells its number.** -/
@[simp] theorem toNat_padded (width n : Nat) : toNat (padded width n) = n := by
  have hz : padded width n
      = ofChars (List.replicate (width - (ofNat n).length) '0' ++ Nat.toDigits 10 n) := by
    rw [padded, zeroFilled, ofNat, ofChars, ofChars, List.map_append, List.map_replicate]
  rw [hz, toNat_ofChars, Nat.ofDigitChars_append, Nat.ofDigitChars_replicate_zero, Nat.mul_zero,
    Nat.ofDigitChars_ten_toDigits]

/-! ## Where a run of code points ends -/

/-- A run of code points of a class ends at the first one that is not in it. -/
theorem span_append {p : CodePoint → Bool} {s rest : Text} (hs : ∀ c ∈ s, p c = true)
    (hrest : ∀ c ∈ rest.head?, p c = false) : (s ++ rest).span p = (s, rest) := by
  have hstop : rest.takeWhile p = [] ∧ rest.dropWhile p = rest := by
    cases rest with
    | nil => exact ⟨rfl, rfl⟩
    | cons c rest =>
      have hc : p c = false := hrest c rfl
      rw [List.takeWhile_cons, List.dropWhile_cons, hc]
      exact ⟨rfl, rfl⟩
  rw [List.span_eq_takeWhile_dropWhile, List.takeWhile_append_of_pos hs,
    List.dropWhile_append_of_pos hs, hstop.1, hstop.2, List.append_nil]

end RichText.Text
