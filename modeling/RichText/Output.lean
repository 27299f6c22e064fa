import RichText.Render.Walk
import RichText.World

/-!
# Output — where rendered text goes

Text is handed back, written to a file or written to a stream.  Paths and streams of bytes get UTF-8.  A
stream takes part with what it is and what its `write` does, which is not for the library to say.
-/

namespace RichText

/-- The types of streams, as far as they tell bytes from text. -/
inductive StreamType
  | byteBuffer
  | textBuffer
  | characters
  | octets
  /-- Anything else that can be written to, with its mode. -/
  | other (mode : Value)

namespace StreamType

/-- **Whether a stream takes bytes.**  What is of no known type does if its mode says so. -/
def isBinary : StreamType → Bool
  | byteBuffer => true
  | textBuffer => false
  | characters => false
  | octets => true
  | other (.text mode) => mode.contains (.char 'b')
  | other _ => false

/-- Whether streams of a type can be given a chunk at all.  Nothing is known of other ones. -/
def allows : StreamType → Chunk → Bool
  | byteBuffer, .text _ => false
  | octets, .text _ => false
  | textBuffer, .bytes _ => false
  | characters, .bytes _ => false
  | _, _ => true

end StreamType

/-- **A stream**: its type, and what comes of writing a chunk to it. -/
structure Stream where
  type : StreamType
  write : Chunk → Effect Unit

namespace Stream

/-- **Give a text to a stream**, as bytes if it takes bytes. -/
def give (x : Stream) (t : Text) : Effect Unit :=
  if x.type.isBinary then do x.write (.bytes (← t.toUtf8)) else x.write (.text t)

/-- A stream that keeps what it is given in memory. -/
def inMemory (type : StreamType) : Stream where
  type
  write c := if type.allows c then Effect.keep c else throw .misuse

/-- A file that is open, as a stream that puts what it is given at the end. -/
def opened (type : StreamType) (path : Text) : Stream where
  type
  write c :=
    if type.allows c then do
      Effect.append path (← c.toBytes)
      Effect.keep c
    else throw .misuse

end Stream

/-- **Where text goes.** -/
inductive Destination
  | caller
  | path (path : Text)
  | stream (x : Stream)
  | unsupported (typeName : Text)

namespace Rendered

/-- The text of a rendering that is to be written. -/
def toText : Rendered → Except Failure Text
  | text t => .ok t
  | value v => .error (.noText v.typeName)

end Rendered

namespace Destination

/-- The path that a file is opened at. -/
def openedAt (path : Text) : Text := (Path.ofText path).text

/-- **Give text to a destination.**  The file at a path is opened before the text is encoded, and is
empty once it is open.  Only the caller gets something back. -/
def deliver (rendered : Rendered) (d : Destination) : Effect (Option Text) := do
  let t ← rendered.toText
  match d with
  | caller => return some t
  | path p =>
    ImageLoader.checkNames [] [openedAt p]
    Effect.fill (openedAt p) []
    Effect.fill (openedAt p) (← t.toUtf8)
    return none
  | stream x =>
    x.give t
    return none
  | unsupported typeName => throw (.noDestination typeName)

end Destination

end RichText
