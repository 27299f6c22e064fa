import RichText.Failure
import RichText.Image.DataUri

/-!
# Image/Source — what an image may be named by

The source of an image is a text; values of other types name none.
-/

namespace RichText.Image

/-- Whether a value is a data URI. -/
def isDataUriValue (source : Value) : Bool :=
  match source with
  | .text t => isDataUri t
  | _ => false

/-- The bytes and the format of the image in a data URI. -/
def decodeSource (source : Value) : Except UriProblem (List UInt8 × Text) :=
  match source with
  | .text t => decodeUri t
  | _ => .error .otherScheme

/-- The format the suffix of a file's name says it has; a value that holds nothing has none. -/
def formatOfSource? (source : Value) : Except Failure (Option Text) :=
  match source with
  | .text t => .ok (if t.isEmpty then none else formatOfPath? (.ofText t))
  | v => if v.truthy then .error .misuse else .ok none

end RichText.Image
