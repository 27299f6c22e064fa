import RichText.Rtf.Scanner

/-!
# Proofs/Scanner — reading code point by code point is reading lexemes

    lexeme begun | rest of the text ──next──▸ lexeme begun | rest, one code point shorter

What has been begun and what is left of the text fix the lexemes that are still to be read
(`Pending.lexemes`).  One code point more leaves what a reader makes of them as it is
(`readAll_next`), so a scanner ends where a reader of the lexemes does (`settled_scan`).
-/

namespace RichText.Rtf

/-! ## Numbers behind a control word -/

theorem numberAt_cons {c : CodePoint} (negative : Bool) (t : Text) (h : c.isDigit = true) :
    numberAt negative (c :: t)
      = some (numberOf negative (c :: t.takeWhile (·.isDigit)), t.dropWhile (·.isDigit)) := by
  rw [numberAt, List.takeWhile_cons_of_pos h, List.dropWhile_cons_of_pos h]
  rfl

theorem numberAt_of_not_isDigit {c : CodePoint} (negative : Bool) (t : Text)
    (h : c.isDigit = false) : numberAt negative (c :: t) = none := by
  have hc : ¬ c.isDigit = true := by rw [h]; exact Bool.false_ne_true
  rw [numberAt, List.takeWhile_cons_of_neg hc]
  rfl

theorem leadingNumber_of_ne_minus {c : CodePoint} (t : Text) (h : c ≠ .char '-') :
    leadingNumber (c :: t) = match numberAt false (c :: t) with
      | some (n, rest) => (some n, rest)
      | none => (none, c :: t) := by
  rw [leadingNumber, signedNumber?.eq_def]
  split <;> simp_all

theorem leadingNumber_minus (t : Text) :
    leadingNumber (.char '-' :: t) = match numberAt true t with
      | some (n, rest) => (some n, rest)
      | none => (none, .char '-' :: t) := rfl

theorem dropSpace_of_ne_space {c : CodePoint} (t : Text) (h : c ≠ .char ' ') :
    dropSpace (c :: t) = c :: t := by
  rw [dropSpace.eq_def]
  split
  · next heq => cases heq; exact absurd rfl h
  · rfl

/-! ## What is still to be read -/

/-- The control word of a name with whatever number a text begins with, and the lexemes behind it. -/
def wordBefore (name : Text) (t : Text) : List Lexeme :=
  .word name (leadingNumber t).1 :: lexemes (dropSpace (leadingNumber t).2)

/-- **The lexemes that are still to be read** where a lexeme has been begun. -/
def Pending.lexemes : Pending → Text → List Lexeme
  | nothing, t => Rtf.lexemes t
  | backslash, t => (control t).1 :: Rtf.lexemes (control t).2
  | word name, t => wordBefore (name ++ t.takeWhile (·.isLetter)) (t.dropWhile (·.isLetter))
  | sign name, t => wordBefore name (.char '-' :: t)
  | number name negative digits, t =>
    .word name (some (numberOf negative (digits ++ t.takeWhile (·.isDigit))))
      :: Rtf.lexemes (dropSpace (t.dropWhile (·.isDigit)))

/-- A code point that begins a lexeme. -/
theorem readAll_begin (r : StyleReader) (c : CodePoint) (t : Text) :
    (Scanner.begin r c).reader.readAll ((Scanner.begin r c).pending.lexemes t)
      = r.readAll (lexemes (c :: t)) := by
  rw [lexemes, Scanner.begin]
  split
  · rfl
  · split
    · rfl
    · split <;> rfl

/-- A control word whose name is complete: a digit, a minus sign or a space may still belong to it. -/
theorem readAll_wordBefore (r : StyleReader) (name : Text) (c : CodePoint) (t : Text) :
    r.readAll (wordBefore name (c :: t))
      = if c.isDigit then r.readAll (Pending.lexemes (.number name false [c]) t)
        else if c.is '-' then r.readAll (Pending.lexemes (.sign name) t)
        else if c.is ' ' then (r.next (.word name none)).readAll (lexemes t)
        else (r.next (.word name none)).readAll (lexemes (c :: t)) := by
  by_cases hminus : c = .char '-'
  · subst hminus
    rfl
  rw [wordBefore, leadingNumber_of_ne_minus t hminus]
  cases hd : c.isDigit with
  | true =>
    rw [numberAt_cons false t hd]
    rfl
  | false =>
    have hm : c.is '-' = false := by simpa [CodePoint.is] using hminus
    rw [numberAt_of_not_isDigit false t hd, if_neg Bool.false_ne_true, hm,
      if_neg Bool.false_ne_true]
    dsimp only
    by_cases hs : c = .char ' '
    · subst hs
      rfl
    · have hs' : c.is ' ' = false := by simpa [CodePoint.is] using hs
      rw [dropSpace_of_ne_space t hs, hs', if_neg Bool.false_ne_true]
      rfl

/-- **One code point more** leaves what a reader makes of the lexemes as it is. -/
theorem readAll_next (x : Scanner) (c : CodePoint) (t : Text) :
    (x.next c).reader.readAll ((x.next c).pending.lexemes t)
      = x.reader.readAll (x.pending.lexemes (c :: t)) := by
  obtain ⟨r, pending⟩ := x
  cases pending with
  | nothing => exact readAll_begin r c t
  | backslash =>
    rw [Pending.lexemes, control, Scanner.next]
    dsimp only
    split
    · next hc =>
      rw [List.takeWhile_cons_of_pos hc, List.dropWhile_cons_of_pos hc]
      rfl
    · rfl
  | word name =>
    rw [Pending.lexemes.eq_def (.word name), Scanner.next]
    dsimp only
    split
    · next hc =>
      rw [List.takeWhile_cons_of_pos hc, List.dropWhile_cons_of_pos hc,
        List.append_cons name c (t.takeWhile _)]
      rfl
    · next hc =>
      rw [List.takeWhile_cons_of_neg hc, List.dropWhile_cons_of_neg hc, List.append_nil,
        readAll_wordBefore]
      split
      · rfl
      · split
        · rfl
        · split
          · rfl
          · exact readAll_begin _ c t
  | sign name =>
    rw [Pending.lexemes.eq_def (.sign name), Scanner.next]
    dsimp only
    rw [wordBefore, leadingNumber_minus]
    split
    · next hc =>
      rw [numberAt_cons true t hc]
      rfl
    · next hc =>
      -- The minus sign turns out to be text of its own.
      have hminus : lexemes (.char '-' :: c :: t) = .char (.char '-') :: lexemes (c :: t) := by
        rw [lexemes.eq_def (.char '-' :: c :: t)]
        rfl
      rw [numberAt_of_not_isDigit true t (Bool.eq_false_iff.mpr hc), readAll_begin]
      dsimp only
      rw [dropSpace_of_ne_space _ (by decide), hminus]
      rfl
  | number name negative digits =>
    rw [Pending.lexemes.eq_def (.number name negative digits), Scanner.next]
    dsimp only
    split
    · next hc =>
      rw [List.takeWhile_cons_of_pos hc, List.dropWhile_cons_of_pos hc,
        List.append_cons digits c (t.takeWhile _)]
      rfl
    · next hc =>
      rw [List.takeWhile_cons_of_neg hc, List.dropWhile_cons_of_neg hc, List.append_nil]
      by_cases hs : c = .char ' '
      · subst hs
        rfl
      · have hs' : c.is ' ' = false := by simpa [CodePoint.is] using hs
        rw [dropSpace_of_ne_space t hs, hs', if_neg Bool.false_ne_true]
        exact readAll_begin _ c t

/-- At the end of a text nothing more belongs to what has been begun. -/
theorem settled_eq_readAll (x : Scanner) : x.settled = x.reader.readAll (x.pending.lexemes []) := by
  have hnil : lexemes [] = [] := by rw [lexemes]
  obtain ⟨r, pending⟩ := x
  cases pending with
  | nothing => rw [Pending.lexemes, hnil]; rfl
  | backslash => rw [Pending.lexemes, control, hnil]; rfl
  | word name =>
    rw [Pending.lexemes, wordBefore, List.takeWhile_nil, List.append_nil, List.dropWhile_nil]
    exact congrArg (r.readAll <| .word name none :: ·) hnil.symm
  | sign name =>
    rw [Pending.lexemes, wordBefore]
    have hminus : lexemes [.char '-'] = [.char (.char '-')] := by rw [lexemes, hnil]; rfl
    exact congrArg (r.readAll <| .word name none :: ·) hminus.symm
  | number name negative digits =>
    rw [Pending.lexemes, List.takeWhile_nil, List.append_nil, List.dropWhile_nil]
    exact congrArg (r.readAll <| .word name (some (numberOf negative digits)) :: ·) hnil.symm

/-- A scanner reads the lexemes that are still to be read. -/
theorem settled_scan_eq (x : Scanner) (t : Text) :
    (x.scan t).settled = x.reader.readAll (x.pending.lexemes t) := by
  induction t generalizing x with
  | nil => exact settled_eq_readAll x
  | cons c rest ih => rw [Scanner.scan_cons, ih, readAll_next]

/-- **A scanner ends where a reader of the lexemes does.** -/
theorem settled_scan (t : Text) :
    (Scanner.scan {} t).settled = StyleReader.readAll {} (lexemes t) :=
  settled_scan_eq {} t

end RichText.Rtf
