import RichText.Image.Loader

/-!
# Source — what a document is read from

A document is a text, or UTF-8 bytes that may begin with a mark of their order, in memory, in a stream
or in a file.
-/

namespace RichText

/-- **What a document is read from.** -/
inductive Source
  | text (t : Text)
  | bytes (b : List UInt8)
  | textStream (t : Text)
  | byteStream (b : List UInt8)
  | file (path : Text)
  /-- A value that nothing can be read from. -/
  | unreadable

namespace Source

/-- Bytes without the mark of their order. -/
def withoutMark : List UInt8 → List UInt8
  | 0xEF :: 0xBB :: 0xBF :: rest => rest
  | b => b

/-- A failure to read a document. -/
def refusal (message : Text) (cause : Failure) : Failure :=
  .parsing (.text message) (.text "input_processing") (some cause)

/-- The text that bytes hold. -/
def decode (b : List UInt8) : Except Failure Text :=
  match Text.ofUtf8? (withoutMark b) with
  | some t => .ok t
  | none => .error (refusal "Input is not valid UTF-8 text" .undecodable)

/-- The text of a file. -/
def readFile (fs : FileSystem) (path : Text) : Except Failure Text := do
  let path := (Path.ofText path).text
  ImageLoader.checkNames [] [path]
  match fs.content path with
  | .ok b => decode b
  | .error e => .error (refusal ("Could not read input: " ++ e.message) (.file e))

/-- **The text of a document.** -/
def read (fs : FileSystem) : Source → Except Failure Text
  | text t => .ok t
  | bytes b => decode b
  | textStream t => .ok t
  | byteStream b => decode b
  | file path => readFile fs path
  | unreadable => .error .noPart

end Source

end RichText
