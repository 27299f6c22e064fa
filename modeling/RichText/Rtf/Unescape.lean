import RichText.Rtf.Escape
import RichText.Text.Class
import RichText.Failure

/-!
# Rtf/Unescape — text out of markup

The inverse of escaping: one scan from left to right replaces escape groups of six or seven decimal
digits of any script, the control word of a tab and escaped backslashes and braces, and then joins
surrogate pairs.
-/

namespace RichText.Rtf

/-- The number that decimal digits of any script spell. -/
def decimalNumber (digits : Text) : Nat :=
  digits.foldl (fun n c => n * 10 + (c.decimalValue?).getD 0) 0

/-- **An escape**: the number of the code point it stands for, and its length. -/
structure Escape where
  code : Nat
  length : Nat

/-- The escape group a text begins with. -/
def escapeGroup? (t : Text) : Option Escape :=
  let start : Text := "\\ud\x7b\\uc6\\u"
  if start.isPrefixOf t then
    match (t.drop start.length).span fun c => c.decimalValue?.isSome with
    | (digits, .char '}' :: _) =>
      if digits.length = 6 ∨ digits.length = 7 then
        some ⟨decimalNumber digits, start.length + digits.length + 1⟩
      else none
    | _ => none
  else none

/-- The escape a text begins with. -/
def leadingEscape? (t : Text) : Option Escape :=
  match escapeGroup? t with
  | some found => some found
  | none =>
    match t with
    | .char '\\' :: .char 't' :: .char 'a' :: .char 'b' :: _ => some ⟨9, 4⟩
    | .char '\\' :: .char '\\' :: _ => some ⟨92, 2⟩
    | .char '\\' :: .char '{' :: _ => some ⟨123, 2⟩
    | .char '\\' :: .char '}' :: _ => some ⟨125, 2⟩
    | _ => none

/-- The text with escapes replaced; the first `skip` code points belong to an escape before. -/
def decodeFrom : Nat → Text → Except Failure Text
  | _, [] => .ok []
  | skip + 1, _ :: rest => decodeFrom skip rest
  | 0, c :: rest =>
    match leadingEscape? (c :: rest) with
    | none => (decodeFrom 0 rest).map (c :: ·)
    | some ⟨n, length⟩ =>
      match CodePoint.ofCode? n with
      | none => .error (.invalid .codePointRange)
      | some x => (decodeFrom (length - 1) rest).map (x :: ·)

/-- **The text that RTF stands for.** -/
def unescape (t : Text) : Except Failure Text := (decodeFrom 0 t).map Text.joinPairs

/-- The text that a value of RTF stands for; a value that holds nothing stays as it is. -/
def unescapeValue : Value → Except Failure Value
  | .text t => (unescape t).map .text
  | v => if v.truthy then .error .misuse else .ok v

end RichText.Rtf
