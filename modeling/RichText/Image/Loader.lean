import RichText.FileSystem.Resolve
import RichText.Image.DataUri
import RichText.Outcome
import RichText.Value.Membership

/-!
# Image/Loader — images to embed

An image comes from a data URI or from a file below the source directory of the loader.  Where the
path of a file leads is found out before anything is read: a path that leaves the directory, through
`..`, from the root or through links, is refused.
-/

namespace RichText

/-- Whether a number is below a whole number. -/
def Value.isBelow (limit : Value) (n : Nat) : Except Failure Bool :=
  match limit with
  | .float x => .ok (!x.isNaN && !Binary64.intLe n x)
  | v => match v.int? with
    | some i => .ok (i < (n : Int))
    | none => .error .misuse

/-- **An image that can be written as a picture.** -/
structure EmbeddedImage where
  data : List UInt8
  format : Text
  deriving DecidableEq

/-- Where images come from and how many bytes one may have. -/
structure ImageLoader where
  sourceDirectory : Path
  limit : Value

namespace ImageLoader

/-- The loader of a source directory; without one, images come from the working directory. -/
def create (fs : FileSystem) (directory limit : Value) : Except Failure ImageLoader :=
  if !directory.truthy then .ok ⟨⟨"/", fs.workingDirectory⟩, limit⟩
  else match directory with
    | .text t => .ok ⟨.ofText t, limit⟩
    | _ => .error .misuse

/-- Refuse an image that is too large. -/
def checkSize (loader : ImageLoader) (size : Nat) (source : Text) : Except Failure Unit := do
  if ← loader.limit.isBelow size then
    .error (.invalid (.imageSize source size loader.limit))

/-- The image in a data URI. -/
def loadUri (loader : ImageLoader) (uri : Text) : Outcome EmbeddedImage := do
  match Image.decodeUri uri with
  | .error problem =>
    Outcome.note (.imageUri problem.message)
    Outcome.fail (.invalid .imageUri)
  | .ok (bytes, format) =>
    if (Image.blip? format).isNone then Outcome.fail (.invalid (.imageFormat (.text format)))
    else
      loader.checkSize bytes.length "data URI"
      return ⟨bytes, format⟩

/-- Refuse names that no file can have; `before` is the text of the path up to them. -/
def checkNames (before : Text) : List Text → Except Failure Unit
  | [] => .ok ()
  | name :: rest =>
    let place := before ++ name
    let isHalf : CodePoint → Bool := fun c =>
      c.utf8?.isNone && !(0xDC80 ≤ c.code && c.code ≤ 0xDCFF)
    if name.contains (.char '\x00') then .error (.invalid .nullCharacter)
    else if name.any isHalf then
      let first := (place.takeWhile fun c => !isHalf c).length
      let run := ((place.drop first).takeWhile isHalf).length
      .error (.unencodable place first (first + run))
    else checkNames (place ++ "/") rest

/-- The path without links that a path leads to. -/
def locate (fs : FileSystem) (p : Path) : Except Failure Path := do
  checkNames p.root p.names
  match fs.resolve p with
  | .ok q => .ok q
  | .error _ => .error .linkLoop

/-- The content of a file, or why there is none. -/
def ofFile {α : Type} : Except FileError α → Except Failure α
  | .ok a => .ok a
  | .error e => .error (.file e)

/-- The image in a file below the source directory. -/
def loadFile (fs : FileSystem) (loader : ImageLoader) (name : Text) :
    Except Failure EmbeddedImage := do
  let format := if name.isEmpty then none else Image.formatOfPath? (.ofText name)
  match format with
  | none => .error (.invalid (.imageFormat (.text name)))
  | some format =>
    if (Image.blip? format).isNone then .error (.invalid (.imageFormat (.text name)))
    else
      let place ← locate fs (loader.sourceDirectory.join name)
      let directory ← locate fs loader.sourceDirectory
      if !directory.names.isPrefixOf place.names then
        .error (.invalid (.imageOutside name loader.sourceDirectory.text))
      else
        let entry ← ofFile (fs.stat place.text)
        loader.checkSize (FileSystem.reportedSize entry) place.text
        return ⟨← ofFile (fs.content place.text), format⟩

/-- **The image at an address**, or none where it lies elsewhere. -/
def load (fs : FileSystem) (loader : ImageLoader) (address : Value) :
    Outcome (Option EmbeddedImage) := do
  match address with
  | .text t =>
    if Image.isDataUri t then return some (← loader.loadUri t)
    else if Text.hasInfix "://" t then
      Outcome.note (.remoteImage address)
      return none
    else return some (← loader.loadFile fs t)
  | v =>
    if ← v.containsText "://" then
      Outcome.note (.remoteImage v)
      return none
    else if v.truthy then Outcome.fail .misuse
    else Outcome.fail (.invalid (.imageFormat v))

end ImageLoader

end RichText
