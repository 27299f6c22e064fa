import RichText.Image.Base64
import RichText.Image.Format

/-!
# Image/DataUri — images inside their own address

A data URI `data:TYPE;base64,DATA` holds the bytes of an image.  Blanks around the type and around the
data are dropped, and the case of the type does not matter.
-/

namespace RichText.Image

/-- Why a data URI gives no image. -/
inductive UriProblem
  | otherScheme
  | malformed (uri : Text)
  | unknownMediaType (type : Text)
  | badData (fault : Base64.Fault)
  deriving DecidableEq

/-- The wording of a problem. -/
def UriProblem.message : UriProblem → Text
  | otherScheme => "Invalid input to decode_base64_image: not a data URI"
  | malformed uri =>
    "Invalid data URI format for URI starting with '" ++ uri.take 50 ++ "...'"
  | unknownMediaType type => "Unknown or unsupported MIME type: " ++ type
  | badData fault => "Invalid base64 encoding: failed to decode (" ++ fault.message ++ ")"

/-- What follows a text at the start of another one. -/
def after? (start t : Text) : Option Text :=
  if start.isPrefixOf t then some (t.drop start.length) else none

def isDataUri (t : Text) : Bool := (after? "data:" t).isSome

/-- The media type and the data of a data URI as written. -/
def uriParts? (t : Text) : Option (Text × Text) := do
  let (type, rest) := (← after? "data:" t).span fun c => c != .char ';' && c != .char ','
  let data ← after? ";base64," rest
  if type.isEmpty || data.isEmpty then none else some (type, data)

/-- **The bytes and the format of the image in a data URI.** -/
def decodeUri (t : Text) : Except UriProblem (List UInt8 × Text) :=
  if !isDataUri t then .error .otherScheme
  else match uriParts? t with
    | none => .error (.malformed t)
    | some (type, data) =>
      let type := type.trim.lower
      match formatOfMediaType? type with
      | none => .error (.unknownMediaType type)
      | some format =>
        match Base64.decode data.trim with
        | .ok bytes => .ok (bytes, format)
        | .error fault => .error (.badData fault)

end RichText.Image
