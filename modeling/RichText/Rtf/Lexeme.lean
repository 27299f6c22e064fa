import RichText.Text.Numeral

/-!
# Rtf/Lexeme — the control words of RTF

RTF consists of braces, control words, control symbols and text.  A control word is a backslash, as
many letters as there are, a number if one follows and one space if one follows that; a backslash
before anything else is a control symbol with it.
-/

namespace RichText.Rtf

/-- **A lexeme of RTF.** -/
inductive Lexeme
  | opening
  | closing
  | word (name : Text) (number : Option Int)
  | symbol (c : CodePoint)
  | char (c : CodePoint)
  /-- A backslash with nothing behind it. -/
  | loneBackslash
  deriving DecidableEq

/-- A number at the start of a text with a sign of its own, and what follows it. -/
def numberAt (negative : Bool) (t : Text) : Option (Int × Text) :=
  let digits := t.takeWhile (·.isDigit)
  if digits.isEmpty then none
  else
    let n : Int := Text.toNat digits
    some (if negative then -n else n, t.dropWhile (·.isDigit))

/-- A number with or without a minus sign at the start of a text, and what follows it. -/
def signedNumber? : Text → Option (Int × Text)
  | .char '-' :: rest => numberAt true rest
  | t => numberAt false t

/-- The number a text begins with, if it does, and what follows it. -/
def leadingNumber (t : Text) : Option Int × Text :=
  match signedNumber? t with
  | some (n, rest) => (some n, rest)
  | none => (none, t)

/-- A text without the space that ends a control word. -/
def dropSpace : Text → Text
  | .char ' ' :: rest => rest
  | t => t

/-- The lexeme that begins with a backslash, and what follows it; the text begins behind the
backslash. -/
def control (t : Text) : Lexeme × Text :=
  match t with
  | [] => (.loneBackslash, [])
  | c :: rest =>
    if c.isLetter then
      let (number, rest) := leadingNumber (t.dropWhile (·.isLetter))
      (.word (t.takeWhile (·.isLetter)) number, dropSpace rest)
    else (.symbol c, rest)

theorem length_numberAt_le {negative : Bool} {t rest : Text} {n : Int}
    (h : numberAt negative t = some (n, rest)) : rest.length ≤ t.length := by
  rw [numberAt] at h
  split at h
  · cases h
  · cases h
    exact (List.dropWhile_sublist _).length_le

theorem length_signedNumber?_le {t rest : Text} {n : Int} (h : signedNumber? t = some (n, rest)) :
    rest.length ≤ t.length := by
  rw [signedNumber?.eq_def] at h
  split at h
  · exact Nat.le_succ_of_le (length_numberAt_le h)
  · exact length_numberAt_le h

theorem length_leadingNumber_le (t : Text) : (leadingNumber t).2.length ≤ t.length := by
  rw [leadingNumber]
  split
  · next n rest h => exact length_signedNumber?_le h
  · exact Nat.le_refl _

theorem length_dropSpace_le (t : Text) : (dropSpace t).length ≤ t.length := by
  rw [dropSpace.eq_def]
  split
  · exact Nat.le_succ _
  · exact Nat.le_refl _

/-- **A control word takes no more than there is.** -/
theorem length_control_le (t : Text) : (control t).2.length ≤ t.length := by
  cases t with
  | nil => exact Nat.le_refl _
  | cons c rest =>
    rw [control]
    split
    · exact Nat.le_trans (length_dropSpace_le _)
        (Nat.le_trans (length_leadingNumber_le _) (List.dropWhile_sublist _).length_le)
    · exact Nat.le_succ _

/-- **The lexemes of a text.** -/
def lexemes (t : Text) : List Lexeme :=
  match t with
  | [] => []
  | c :: rest =>
    if c.is '{' then .opening :: lexemes rest
    else if c.is '}' then .closing :: lexemes rest
    else if c.is '\\' then (control rest).1 :: lexemes (control rest).2
    else .char c :: lexemes rest
termination_by t.length
decreasing_by
  all_goals simp only [List.length_cons]
  · exact Nat.lt_succ_self _
  · exact Nat.lt_succ_self _
  · exact Nat.lt_succ_of_le (length_control_le rest)
  · exact Nat.lt_succ_self _

end RichText.Rtf
