import RichText.Value.Shown
import RichText.Json.Reader

/-!
# Json/Writer — JSON documents of values

Texts keep every code point except quotation marks, backslashes and controls, which are escaped.
Keys that are no text are written as the text of the scalar they are.  Without an indent the
separators are a comma and a colon with a blank behind; with one every item has a line of its own.
-/

namespace RichText.Json

/-- Why a value has no JSON document. -/
inductive WriteError
  | noForm
  | tooManyDigits
  /-- A list or mapping stands inside of itself. -/
  | endless
  deriving DecidableEq

/-- A code point inside quotation marks. -/
def escaped : CodePoint → Text
  | .char '"' => "\\\""
  | .char '\\' => "\\\\"
  | .char '\n' => "\\n"
  | .char '\r' => "\\r"
  | .char '\t' => "\\t"
  | .char '\x0c' => "\\f"
  | .char '\x08' => "\\b"
  | c => if c.code < 0x20 then "\\u" ++ Text.paddedHex 4 c.code else [c]

/-- A text between quotation marks. -/
def writeText (t : Text) : Text := "\"" ++ t.flatMap escaped ++ "\""

/-- A float; those that are no number have names. -/
def writeFloat (x : Binary64) : Text :=
  if x.isNaN then "NaN"
  else if x.isInfinite then (if x.negative then "-Infinity" else "Infinity")
  else x.text

/-- An integer within the digit limit. -/
def writeInt (i : Int) : Except WriteError Text :=
  if i.natAbs < Nat.pow 10 Text.digitLimit then .ok (Text.ofInt i) else .error .tooManyDigits

def writeBool (b : Bool) : Text := if b then "true" else "false"

/-- A value that is no list or mapping. -/
def writeScalar : Value → Except WriteError Text
  | .null => .ok "null"
  | .bool b => .ok (writeBool b)
  | .int i => writeInt i
  | .float x => .ok (writeFloat x)
  | .text t => .ok (writeText t)
  | .around _ => .error .endless
  | _ => .error .noForm

/-- A key as a text between quotation marks. -/
def writeKey : Value → Except WriteError Text
  | .text t => .ok (writeText t)
  | key => do return writeText (← writeScalar key)

/-- The layout of a document: the blanks of one level, if every item has its own line. -/
abbrev Indent := Option Text

/-- The line break in front of an item at a depth. -/
def lineBreak (indent : Indent) (depth : Nat) : Text :=
  match indent with
  | none => []
  | some unit => "\n" ++ (List.replicate depth unit).flatten

/-- What stands between two items. -/
def separator (indent : Indent) (depth : Nat) : Text :=
  match indent with
  | none => ", "
  | some _ => "," ++ lineBreak indent depth

/-- Items between brackets at a depth. -/
def enclosed (indent : Indent) (depth : Nat) (opening closing : Text) : List Text → Text
  | [] => opening ++ closing
  | items =>
    opening ++ lineBreak indent (depth + 1) ++ Text.joinWith (separator indent (depth + 1)) items
      ++ lineBreak indent depth ++ closing

mutual

/-- A value at a depth. -/
def writeAt (indent : Indent) (depth : Nat) : Value → Except WriteError Text
  | .list items => do
    return enclosed indent depth "[" "]" (← writeItems indent (depth + 1) items)
  | .dict entries => do
    return enclosed indent depth "\x7b" "\x7d" (← writeEntries indent (depth + 1) entries)
  | v => writeScalar v

/-- The items of a list at a depth. -/
def writeItems (indent : Indent) (depth : Nat) : List Value → Except WriteError (List Text)
  | [] => .ok []
  | v :: rest => do
    let first ← writeAt indent depth v
    return first :: (← writeItems indent depth rest)

/-- The entries of a mapping at a depth. -/
def writeEntries (indent : Indent) (depth : Nat) :
    List (Value × Value) → Except WriteError (List Text)
  | [] => .ok []
  | (k, v) :: rest => do
    let key ← writeKey k
    let value ← writeAt indent depth v
    return (key ++ ": " ++ value) :: (← writeEntries indent depth rest)

end

/-- **The JSON document of a value.** -/
def write (indent : Indent) (v : Value) : Except WriteError Text := writeAt indent 0 v

end RichText.Json
