import RichText.Text.Class
import RichText.Table.Case

/-!
# Text/Case — letter case

The lower and the upper case of a text in any script.  A capital sigma at the end of a word has a
lower case of its own; every other letter has one that does not depend on its neighbours.
-/

namespace RichText

namespace CodePoint

/-- The image of a code point under a table of runs and of special images. -/
def mapped (runs : List (Nat × Nat × Nat × Int)) (special : List (Nat × List Nat))
    (c : CodePoint) : Text :=
  match special.find? (·.1 == c.code) with
  | some (_, image) => image.map ofCode
  | none =>
    match runs.find? fun (first, last, step, _) =>
        first ≤ c.code && c.code ≤ last && (c.code - first) % step == 0 with
    | some (_, _, _, distance) => [ofCode (c.code + distance).toNat]
    | none => [c]

/-- The lower case of a code point standing alone. -/
def lower (c : CodePoint) : Text :=
  match c with
  | char x => if x.toNat < 0x80 then [char x.toLower] else mapped Table.lowerRuns Table.lowerSpecial c
  | _ => [c]

/-- The upper case of a code point. -/
def upper (c : CodePoint) : Text :=
  match c with
  | char x => if x.toNat < 0x80 then [char x.toUpper] else mapped Table.upperRuns Table.upperSpecial c
  | _ => [c]

def isCased (c : CodePoint) : Bool := inRanges Table.cased c.code

def isCaseIgnorable (c : CodePoint) : Bool := inRanges Table.caseIgnorable c.code

end CodePoint

namespace Text

/-- The first code point past the case-ignorable ones is a cased letter. -/
def meetsCased (t : Text) : Bool :=
  match t.dropWhile (·.isCaseIgnorable) with
  | c :: _ => c.isCased
  | [] => false

/-- Lower case from left to right; `before` is the text passed so far, last code point first. -/
def lowerFrom (before : Text) : Text → Text
  | [] => []
  | c :: rest =>
    let image :=
      if c.code == 0x3A3 then
        if meetsCased before && !meetsCased rest then [.ofCode 0x3C2] else [.ofCode 0x3C3]
      else c.lower
    image ++ lowerFrom (c :: before) rest

/-- The lower case of a text. -/
def lower (t : Text) : Text := lowerFrom [] t

/-- The upper case of a text. -/
def upper (t : Text) : Text := t.flatMap (·.upper)

end Text

end RichText
