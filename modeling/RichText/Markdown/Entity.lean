import RichText.Table.Entity
import RichText.Text.Numeral

/-!
# Markdown/Entity — characters written by name or number

Between an ampersand and a semicolon stands the name of a character, or a hash and its number in
decimal or, behind an `x`, in hexadecimal.  A number that is no character stands for the replacement
character.
-/

namespace RichText.Markdown.Entity

/-- The number hexadecimal digits spell. -/
def hexNumber (digits : Text) : Nat :=
  digits.foldl (fun n c => n * 16 + (c.hexValue?.getD 0)) 0

/-- The character of a number. -/
def ofNumber (n : Nat) : CodePoint :=
  if n == 0 || (0xD800 ≤ n && n < 0xE000) then .ofCode 0xFFFD else .ofCode n

/-- The text of a row entry: code points in hexadecimal with hyphens between them. -/
def codes (t : Text) : Text := (List.splitOn (.char '-') t).map fun digits => .ofCode (hexNumber digits)

/-- The text an entry gives a name. -/
def meaningIn? (name : Text) (entry : Text) : Option Text :=
  match List.splitOn (.char ':') entry with
  | [n, found] => if n == name then some (codes found) else none
  | _ => none

/-- The text of a name. -/
def ofName? (name : Text) : Option Text :=
  Table.entities.findSome? fun row =>
    (List.splitOn (.char ' ') (Text.ofString row)).findSome? (meaningIn? name)

/-- The text of what stands between an ampersand and a semicolon. -/
def meaning? : Text → Option Text
  | .char '#' :: rest =>
    let isHex := rest.head? == some (.char 'x') || rest.head? == some (.char 'X')
    let digits := if isHex then rest.drop 1 else rest
    if isHex then
      if 0 < digits.length && digits.length ≤ 6 && digits.all (·.isHexDigit) then
        some [ofNumber (hexNumber digits)]
      else none
    else if 0 < digits.length && digits.length ≤ 7 && digits.all (·.isDigit) then
      some [ofNumber (Text.toNat digits)]
    else none
  | name => if !name.isEmpty && name.all (·.isAlphanum) then ofName? name else none

/-- The text of a reference behind an ampersand, and what follows it. -/
def reference? (t : Text) : Option (Text × Text) :=
  let name := (t.take 33).takeWhile (· != .char ';')
  match t.drop name.length with
  | .char ';' :: rest => (meaning? name).map fun found => (found, rest)
  | _ => none

end RichText.Markdown.Entity
