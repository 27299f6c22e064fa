import RichText.FileSystem
import RichText.Json.Error
import RichText.Url.Host
import RichText.Value.Shown

/-!
# Failure — why there is no result

A failure is a cause.  `Failure.message` is the one place where causes get their wording, and
`Failure.quoted` what they look like inside another message.  Reports are the failures meant for a
caller of the library; they keep the parts their wording is made of.
-/

namespace RichText

/-- **A value that is out of place**, although its type fits. -/
inductive Invalid
  | headingLevel (level : Value)
  | noNodeType
  | unknownNodeType (name : Value)
  | unserializable (typeName : Text)
  | noObject (typeName : Text)
  | schemaType (typeName : Text)
  | schemaVersion (version : Value)
  | assetSize (limit : Value)
  | unicodeMode (mode : Value)
  | codePointRange
  | nanToInteger
  | digitsRead (count : Nat)
  | digitsWritten
  | circular
  | updateLength (place length : Nat)
  | url (error : UrlError)
  | imageUri
  | imageFormat (name : Value)
  | imageOutside (path directory : Text)
  | imageSize (source : Text) (size : Nat) (limit : Value)
  | nullCharacter
  | integerText (text : Text) (base : Nat)
  | floatText (text : Text)
  | yearRange (year : Int)
  | monthRange
  | dayRange
  | hourRange
  | minuteRange
  | secondRange
  | offsetRange (minutes : Int)
  | tooFew (wanted length : Nat)
  | tooMany (wanted : Nat)
  | other (message : Text)

/-- **Why there is no result.** -/
inductive Failure
  /-- An operation met a value of a type it does not take. -/
  | misuse
  /-- What was to be written is no text. -/
  | noText (typeName : Text)
  /-- What was to be written to is no destination. -/
  | noDestination (typeName : Text)
  /-- A value lacks a part that is asked of it. -/
  | noPart
  /-- A name nothing was stored under. -/
  | noName
  /-- A place beyond the end. -/
  | noPlace
  | divisionByZero
  /-- A number that is too large to count with, or an infinity, which has no integer. -/
  | overflow
  /-- A surrogate half from `first` up to `last` has no bytes. -/
  | unencodable (text : Text) (first last : Nat)
  | undecodable
  | linkLoop
  | notImported
  /-- A node that is below itself. -/
  | endless
  /-- A field that is never assigned. -/
  | frozen (field : Text)
  | version (text : Text)
  | invalid (why : Invalid)
  | json (error : Json.Error)
  | file (error : FileError)
  /-- A value handed over as a cause. -/
  | given (value : Value)
  | general (message : Value) (cause : Option Failure)
  | validation (message parameter value : Value) (cause : Option Failure)
  | wrongOptions (component : Value) (expected received : Text) (message : Value)
      (cause : Option Failure)
  | parsing (message stage : Value) (cause : Option Failure)
  | rendering (message stage : Value) (cause : Option Failure)
  | missingAttribute (kind wanted message : Value)
  | dependency (component missing mismatched command message : Value) (cause : Option Failure)

/-- **Why a text has no value** in a language: it is none of the language, or something in it has no
value for a reason of its own. -/
inductive Fault
  | malformed
  | failed (f : Failure)

namespace Invalid

/-- A span of minutes in days and in the seconds that are left, of which there are never fewer than
none. -/
def duration (minutes : Int) : Text :=
  let days := minutes.fdiv 1440
  let seconds := minutes.fmod 1440 * 60
  let parts := (if days == 0 then [] else [("days=" : Text) ++ Text.ofInt days])
    ++ (if seconds == 0 then [] else [("seconds=" : Text) ++ Text.ofInt seconds])
  "datetime.timedelta(" ++ (parts.intersperse (Text.ofString ", ")).flatten ++ ")"

/-- The wording of an invalid value. -/
def message : Invalid → Text
  | headingLevel level => "Heading level must be 1-6, got " ++ level.shown
  | noNodeType => "Dictionary must contain 'node_type' field"
  | unknownNodeType name => "Unknown node type: " ++ name.shown
  | unserializable typeName => "Unknown node type for serialization: " ++ typeName
  | noObject typeName => "Expected a JSON object, got " ++ typeName
  | schemaType typeName => "Schema version must be an integer, got " ++ typeName
  | schemaVersion version =>
    "Unsupported schema version: " ++ version.shown
      ++ ". This version of md2rtf supports schema version 1 only."
  | assetSize limit => "max_asset_size_bytes must be positive, got " ++ limit.shown
  | unicodeMode mode => "unicode_mode must be 'utf16' or 'codepoint', got " ++ mode.quoted
  | codePointRange => "chr() arg not in range(0x110000)"
  | nanToInteger => "cannot convert float NaN to integer"
  | digitsRead count =>
    "Exceeds the limit (4300 digits) for integer string conversion: value has "
      ++ Text.ofNat count ++ " digits; use sys.set_int_max_str_digits() to increase the limit"
  | digitsWritten =>
    "Exceeds the limit (4300 digits) for integer string conversion; use sys.set_int_max_str_digits() to increase the limit"
  | circular => "Circular reference detected"
  | updateLength place length =>
    "dictionary update sequence element #" ++ Text.ofNat place ++ " has length "
      ++ Text.ofNat length ++ "; 2 is required"
  | url error => error.message
  | imageUri => "Malformed or unsupported image data URI"
  | imageFormat name => "Unsupported image format for embedding: " ++ name.shown
  | imageOutside path directory =>
    "Image path " ++ path ++ " is outside the source directory " ++ directory
  | imageSize source size limit =>
    "Image " ++ source ++ " is " ++ Text.ofNat size ++ " bytes, larger than the " ++ limit.shown
      ++ " byte limit"
  | nullCharacter => "embedded null byte"
  | integerText text base =>
    "invalid literal for int() with base " ++ Text.ofNat base ++ ": " ++ text.quoted.take 200
  | floatText text => "could not convert string to float: " ++ text.quoted
  | yearRange year => "year " ++ Text.ofInt year ++ " is out of range"
  | monthRange => "month must be in 1..12"
  | dayRange => "day is out of range for month"
  | hourRange => "hour must be in 0..23"
  | minuteRange => "minute must be in 0..59"
  | secondRange => "second must be in 0..59"
  | offsetRange minutes =>
    "offset must be a timedelta strictly between -timedelta(hours=24) and timedelta(hours=24), not "
      ++ duration minutes ++ "."
  | tooFew wanted length =>
    "not enough values to unpack (expected " ++ Text.ofNat wanted ++ ", got " ++ Text.ofNat length
      ++ ")"
  | tooMany wanted => "too many values to unpack (expected " ++ Text.ofNat wanted ++ ")"
  | other message => message

end Invalid

namespace Failure

/-- The name and version of a requirement. -/
def requirement (name spec : Value) : Text :=
  if spec.truthy then name.shown ++ spec.shown else name.shown

/-- The code points of a surrogate run in a message. -/
def unencodableMessage (text : Text) (first last : Nat) : Text :=
  if first + 1 = last then
    "'utf-8' codec can't encode character " ++ Text.quoted ((text.drop first).take 1)
      ++ " in position " ++ Text.ofNat first ++ ": surrogates not allowed"
  else
    "'utf-8' codec can't encode characters in position " ++ Text.ofNat first ++ "-"
      ++ Text.ofNat (last - 1) ++ ": surrogates not allowed"

/-- A wording of the caller's, or the one that belongs to the cause. -/
def givenOr (given : Value) (standard : Text) : Text :=
  if given.isNull then standard else given.shown

/-- **The wording of a failure.** -/
def message : Failure → Text
  | noText typeName => "Content must be str, got <class '" ++ typeName ++ "'>"
  | noDestination typeName => "Unsupported output type: <class '" ++ typeName ++ "'>"
  | unencodable text first last => unencodableMessage text first last
  | frozen field => "cannot assign to field " ++ field.quoted
  | version text => "Invalid version: " ++ text.quoted
  | invalid why => why.message
  | json error => error.message
  | file error => error.message
  | given value => value.shown
  | general message _ => message.shown
  | validation message _ _ _ => message.shown
  | wrongOptions component expected received message _ =>
    givenOr message (component.shown ++ " needs " ++ expected ++ ", got " ++ received ++ " instead.")
  | parsing message _ _ => message.shown
  | rendering message _ _ => message.shown
  | missingAttribute kind wanted message =>
    givenOr message
      (kind.shown ++ " node is missing required attribute '" ++ wanted.shown ++ "'")
  | dependency _ _ _ _ message _ => message.shown
  | _ => []

/-- A failure inside another message: its name and what it is made of. -/
def quoted : Failure → Text
  | file error => error.quoted
  | unencodable text first last =>
    "UnicodeEncodeError('utf-8', " ++ text.quoted ++ ", " ++ Text.ofNat first ++ ", "
      ++ Text.ofNat last ++ ", 'surrogates not allowed')"
  | f => "ValueError(" ++ f.message.quoted ++ ")"

/-- A missing attribute of a node, with the wording that belongs to it. -/
def missing (kind wanted : Text) : Failure := missingAttribute (.text kind) (.text wanted) .null

end Failure

/-- The UTF-8 bytes of a text.  A surrogate half has none; the failure names the first run of them. -/
def Text.toUtf8 (t : Text) : Except Failure (List UInt8) :=
  match t.utf8? with
  | some bytes => .ok bytes
  | none =>
    let before := t.takeWhile fun c => c.utf8?.isSome
    let run := (t.drop before.length).takeWhile fun c => c.utf8?.isNone
    .error (.unencodable t before.length (before.length + run.length))

end RichText
