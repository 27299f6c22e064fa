import RichText.Proofs.Numeral
import RichText.Rtf.Escape

/-!
# Proofs/Escape — escaping is done code point by code point

The four replacements of `Rtf.escape` run over the whole text one after the other, but none of them
touches what an earlier one has written: escaping gives every code point an image of its own
(`escape_eq_flatMap`).  An image is a code point of ASCII, a backslash with something behind it, or
a run of escape groups (`escapedImage_cases`).
-/

namespace RichText.Rtf

/-! ## One replacement -/

theorem replace_append (c : CodePoint) (image s t : Text) :
    replace c image (s ++ t) = replace c image s ++ replace c image t := List.flatMap_append

/-- Nothing is replaced where the code point does not occur. -/
theorem replace_eq_self {c : CodePoint} {image t : Text} (h : c ∉ t) : replace c image t = t := by
  induction t with
  | nil => rfl
  | cons d rest ih =>
    rw [List.mem_cons, not_or] at h
    rw [replace, List.flatMap_cons, if_neg (Ne.symm h.1)]
    exact congrArg (d :: ·) (ih h.2)

/-! ## Escape groups -/

/-- A code point of an escape group is one of its marks or an ASCII digit. -/
theorem mem_escapeGroup {c : CodePoint} {n : Nat} (h : c ∈ escapeGroup n) :
    c ∈ ("\\ud\x7b\\uc6\\u\x7d" : Text) ∨ c.isDigit = true := by
  rcases List.mem_append.mp h with hs | hc
  · rcases List.mem_append.mp hs with hs | hd
    · exact Or.inl (List.mem_append_left ("\x7d" : Text) hs)
    · exact Or.inr (Text.isDigit_of_mem_padded hd)
  · exact Or.inl (List.mem_append_right ("\\ud\x7b\\uc6\\u" : Text) hc)

theorem tab_notMem_escapeGroup (n : Nat) : CodePoint.char '\t' ∉ escapeGroup n := by
  intro h
  rcases mem_escapeGroup h with hm | hd
  · exact absurd hm (by decide)
  · exact absurd hd (by decide)

/-- The numbers a code point is escaped with, one a group. -/
def escapeUnits (mode : UnicodeMode) (c : CodePoint) : List Nat :=
  match mode with
  | .utf16 => c.units16
  | .codepoint => [c.code]

theorem escapeCode_eq_flatMap (mode : UnicodeMode) (c : CodePoint) :
    escapeCode mode c = (escapeUnits mode c).flatMap escapeGroup := by
  cases mode with
  | utf16 => rfl
  | codepoint => exact (List.append_nil _).symm

theorem tab_notMem_escapeCode (mode : UnicodeMode) (c : CodePoint) :
    CodePoint.char '\t' ∉ escapeCode mode c := by
  rw [escapeCode_eq_flatMap, List.mem_flatMap]
  rintro ⟨n, -, h⟩
  exact tab_notMem_escapeGroup n h

/-! ## All of them -/

/-- The image of one code point, by its kind. -/
theorem escapedImage_cases (mode : UnicodeMode) (c : CodePoint) :
    (c = .char '\\' ∧ escapedImage mode c = "\\\\")
      ∨ (c = .char '\x7b' ∧ escapedImage mode c = "\\\x7b")
      ∨ (c = .char '\x7d' ∧ escapedImage mode c = "\\\x7d")
      ∨ (c = .char '\t' ∧ escapedImage mode c = "\\tab")
      ∨ ((c ≠ .char '\\' ∧ c ≠ .char '\x7b' ∧ c ≠ .char '\x7d' ∧ c ≠ .char '\t')
        ∧ escapedImage mode c = if c.isAscii then [c] else escapeCode mode c) := by
  by_cases h1 : c = .char '\\'
  · exact Or.inl ⟨h1, by rw [h1]; rfl⟩
  by_cases h2 : c = .char '\x7b'
  · exact Or.inr (Or.inl ⟨h2, by rw [h2]; rfl⟩)
  by_cases h3 : c = .char '\x7d'
  · exact Or.inr (Or.inr (Or.inl ⟨h3, by rw [h3]; rfl⟩))
  by_cases h4 : c = .char '\t'
  · exact Or.inr (Or.inr (Or.inr (Or.inl ⟨h4, by rw [h4]; rfl⟩)))
  refine Or.inr (Or.inr (Or.inr (Or.inr ⟨⟨h1, h2, h3, h4⟩, ?_⟩)))
  rw [escapedImage.eq_def]
  split <;> first | rfl | contradiction

/-- The replacements of one code point. -/
theorem escape_singleton (mode : UnicodeMode) (c : CodePoint) :
    escape mode [c] = escapedImage mode c := by
  rcases escapedImage_cases mode c with
    ⟨rfl, h⟩ | ⟨rfl, h⟩ | ⟨rfl, h⟩ | ⟨rfl, h⟩ | ⟨⟨h1, h2, h3, h4⟩, h⟩
  · rw [h]; rfl
  · rw [h]; rfl
  · rw [h]; rfl
  · rw [h]; rfl
  · have hb : replace (.char '\\') "\\\\" [c] = [c] :=
      replace_eq_self (by simpa using Ne.symm h1)
    have ho : replace (.char '\x7b') "\\\x7b" [c] = [c] :=
      replace_eq_self (by simpa using Ne.symm h2)
    have hc : replace (.char '\x7d') "\\\x7d" [c] = [c] :=
      replace_eq_self (by simpa using Ne.symm h3)
    rw [escape, hb, ho, hc, h, escapeBeyondAscii, List.flatMap_cons, List.flatMap_nil,
      List.append_nil]
    split
    · exact replace_eq_self (by simpa using Ne.symm h4)
    · exact replace_eq_self (tab_notMem_escapeCode mode c)

theorem escape_append (mode : UnicodeMode) (s t : Text) :
    escape mode (s ++ t) = escape mode s ++ escape mode t := by
  simp only [escape, replace_append, escapeBeyondAscii, List.flatMap_append]

/-- **Escaping gives every code point an image of its own.** -/
theorem escape_eq_flatMap (mode : UnicodeMode) (t : Text) :
    escape mode t = t.flatMap (escapedImage mode) := by
  induction t with
  | nil => rfl
  | cons c rest ih =>
    rw [← List.singleton_append, escape_append, escape_singleton, ih, List.flatMap_append,
      List.flatMap_singleton]

end RichText.Rtf
