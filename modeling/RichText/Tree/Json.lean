import RichText.Json.Writer
import RichText.Tree.Dict

/-!
# Tree/Json — trees as JSON documents

The document of a tree is the object of its mapping with the version of the schema in front.  A
document without a version is read as one of the current version.
-/

namespace RichText

/-- The version of the schema trees are written in. -/
def schemaVersion : Int := 1

namespace Json

/-- A document that cannot be written. -/
def WriteError.toFailure : WriteError → Failure
  | noForm => .misuse
  | tooManyDigits => .invalid .digitsWritten
  | endless => .invalid .circular

/-- A document that cannot be read. -/
def ReadError.toFailure : ReadError → Failure
  | malformed error => .json error
  | tooManyDigits count => .invalid (.digitsRead count)

/-- Whether something can be repeated a number of times: the number has 64 bits, one of them its sign. -/
def isCount (n : Int) : Bool := -0x8000000000000000 ≤ n && n < 0x8000000000000000

/-- The layout a value asks for: a number of blanks for each level, or a text. -/
def indentOf : Value → Except Failure Indent
  | .null => .ok none
  | .text t => .ok (some t)
  | v => match v.int? with
    | some n =>
      if isCount n then .ok (some (List.replicate n.toNat (.char ' '))) else .error .overflow
    | none => .error .misuse

end Json

namespace Node

/-- **The JSON document of a tree.** -/
def toJson (indent : Json.Indent) (n : Node) : Except Failure Text := do
  match ← n.toDict with
  | .dict entries =>
    let document := Value.dict (entry "schema_version" (.int schemaVersion) :: entries)
    (Json.write indent document).mapError Json.WriteError.toFailure
  | _ => .error .misuse

/-- Refuse a document of a version other than the current one. -/
def checkVersion : Option Value → Except Failure Unit
  | none | some .null => .ok ()
  | some v => match v.int? with
    | none => .error (.invalid (.schemaType v.typeName))
    | some n => if n = schemaVersion then .ok () else .error (.invalid (.schemaVersion v))

/-- Note a document of a version other than the current one. -/
def noteVersion : Option Value → Outcome Unit
  | none | some .null => return
  | some v => if v.same (.int schemaVersion) then return else Outcome.note (.schemaDiffers v)

/-- The tree of the value of a document. -/
def ofDocument (validate strict : Bool) : Value → Outcome Node
  | .dict entries => do
    let version := Value.field? "schema_version" entries
    if validate then Outcome.ofExcept (checkVersion version) else noteVersion version
    ofDict strict (.dict (Value.erase "schema_version" entries))
  | v => Outcome.fail (.invalid (.noObject v.typeName))

/-- **The tree of a JSON document.** -/
def ofJson (validate strict : Bool) (document : Text) : Outcome Node :=
  match Json.read document with
  | .ok v => ofDocument validate strict v
  | .error e => Outcome.fail e.toFailure

end Node

end RichText
