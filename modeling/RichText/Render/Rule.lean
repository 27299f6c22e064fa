import RichText.Image.Loader
import RichText.Rtf.Escape
import RichText.Tree
import RichText.Url.Resolve

/-!
# Render/Rule — the RTF of one node

Every kind of node has a rule, which is given the RTF of the node's children and says what stands
around it.  Elements and nodes of foreign kinds are written as the name of their kind in parentheses,
followed by their children.
-/

namespace RichText

/-- **The context of one rendering**, which every rule is given: the base URL, how characters are escaped,
where images come from, if they are embedded at all, and whether an image that cannot be embedded is an
error. -/
structure RenderContext where
  baseUrl : Value
  unicodeMode : Rtf.UnicodeMode
  imageLoader : Option ImageLoader
  failOnResourceErrors : Value

/-- What a rule gives: RTF, or a field without content, which is passed on as it is. -/
inductive Rendered
  | text (t : Text)
  | value (v : Value)

namespace Rendered

/-- The RTF of children one after the other; each of them has to be RTF. -/
def join : List Rendered → Except Failure Text
  | [] => .ok []
  | text t :: rest => (join rest).map (t ++ ·)
  | value _ :: _ => .error .misuse

end Rendered

/-- **What stands around the RTF of children.** -/
structure Enclosure where
  before : Text
  after : Text

/-- RTF with what stands around it. -/
def Enclosure.around (e : Enclosure) (body : Text) : Text := e.before ++ body ++ e.after

namespace Rtf

/-- The break after a paragraph. -/
def paragraphBreak : Text := "\\line\\line "

/-- The break after a line. -/
def lineBreak : Text := "\\line "

/-- The font size of a heading in half-points: 48 divided by the level, rounded half up. -/
def fontSize (level : Value) : Except Failure Value :=
  match level with
  | .float x =>
    let double := (Binary64.ofRat 2).mul x
    if double.isZero then .error .divisionByZero
    else .ok (.float (((Binary64.ofRat 96).add x).floorDiv double))
  | v => match v.int? with
    | some n => if n = 0 then .error .divisionByZero else .ok (.int (Int.fdiv (96 + n) (2 * n)))
    | none => .error .misuse

/-- The whole part of a number. -/
def wholePart (v : Value) : Except Failure Int :=
  match v with
  | .float x =>
    if x.isNaN then .error (.invalid .nanToInteger)
    else if x.isInfinite then .error .overflow
    else .ok x.truncate
  | v => match v.int? with
    | some n => .ok n
    | none => .error .misuse

/-- A length in pixels as twips. -/
def twips (v : Value) : Except Failure Int :=
  match v with
  | .float x => wholePart (.float (x.mul (Binary64.ofRat 15)))
  | v => do return (← wholePart v) * 15

/-- The size of a picture in one direction, if it is given.  Integers of too many digits are not
written. -/
def pictureLength (word : Text) (v : Value) : Except Failure Text :=
  if v.truthy then do
    let length ← twips v
    if length.natAbs < Nat.pow 10 Text.digitLimit then return word ++ Text.ofInt length
    else .error (.invalid .digitsWritten)
  else .ok []

/-- The group of an embedded picture. -/
def picture (image : EmbeddedImage) (width height : Value) : Except Failure Text := do
  let width ← pictureLength "\\picwgoal" width
  let height ← pictureLength "\\pichgoal" height
  return "\x7b\\*\\shppict\x7b\\pict" ++ (Image.blip? image.format).getD [] ++ width ++ height
    ++ " " ++ Text.ofBytes image.data ++ "\x7d\x7d"

/-- What stands around the RTF that a field shows; the field leads to a URL. -/
def hyperlink (context : RenderContext) (url : Value) : Except Failure Enclosure := do
  let target ← Url.quote (← Url.resolve url context.baseUrl)
  return ⟨"\x7b\\field\x7b\\*\\fldinst\x7bHYPERLINK " ++ target ++ "\x7d\x7d\x7b\\fldrslt ",
    "\x7d\x7d"⟩

/-- The content of a text as RTF. -/
def content (mode : UnicodeMode) : Value → Except Failure Rendered
  | .text t => .ok (.text (escape mode t))
  | .bytes b => if b.isEmpty then .ok (.value (.bytes b)) else .error .misuse
  | .date _ => .error .misuse
  | .moment _ => .error .misuse
  | v => if v.truthy then .error .noPart else .ok (.value v)

/-- The name of a kind in parentheses. -/
def fallback (mode : UnicodeMode) (kind : Value) : Text :=
  escape mode ("(" ++ kind.shown ++ ")")

end Rtf

/-- Failures that the embedding of one image may have without ending the rendering. -/
def Failure.isImageProblem : Failure → Bool
  | .invalid _ => true
  | .unencodable _ _ _ => true
  | .file _ => true
  | _ => false

namespace Leaf

/-- The picture of an image, or none where it is to be shown as a link. -/
def embedded? (fs : FileSystem) (context : RenderContext) (loader : ImageLoader)
    (url width height : Value) : Outcome (Option Text) :=
  let loaded := loader.load fs url
  match loaded.result with
  | .ok none => ⟨loaded.log, .ok none⟩
  | .ok (some source) => ⟨loaded.log, (Rtf.picture source width height).map some⟩
  | .error cause =>
    if !cause.isImageProblem then ⟨loaded.log, .error cause⟩
    else match url with
      | .dict _ => ⟨loaded.log, .error .misuse⟩
      | .set _ => ⟨loaded.log, .error .misuse⟩
      | _ =>
        let log := loaded.log ++ [.embeddingFailed url cause]
        if context.failOnResourceErrors.truthy then
          let message : Text := "Failed to embed image " ++ (Notice.shortened url).shown ++ ": "
            ++ cause.quoted
          ⟨log, .error (.rendering (.text message) (.text "image_processing") (some cause))⟩
        else ⟨log, .ok none⟩

/-- The alternative text of an image as a link to it; what is no text is shown as none. -/
def imageLink (context : RenderContext) (url alt : Value) : Except Failure Rendered := do
  let shown : Text := match ← Rtf.content context.unicodeMode alt with
    | .text t => t
    | .value _ => []
  return .text ((← Rtf.hyperlink context url).around shown)

/-- **The RTF of a leaf.** -/
def rule (fs : FileSystem) (context : RenderContext) : Leaf → Outcome Rendered
  | text content _ =>
    if content.isNull then Outcome.fail (.missing "text" "content")
    else Outcome.ofExcept (Rtf.content context.unicodeMode content)
  | image url alt _ width height _ =>
    if url.isNull then Outcome.fail (.missing "image" "url")
    else do
      let picture ← match context.imageLoader with
        | some loader => embedded? fs context loader url width height
        | none => pure none
      match picture with
      | some t => return .text t
      | none => Outcome.ofExcept (imageLink context url alt)
  | foreign name => do
    let kind : Value := .text name.lower
    Outcome.note (.noRule kind)
    return .text (Rtf.fallback context.unicodeMode kind)
  | stray _ => Outcome.fail .noPart

end Leaf

namespace Branch

/-- **What stands around the children of a branch.** -/
def enclosure (context : RenderContext) : Branch → Outcome Enclosure
  | document => return ⟨"\x7b\\rtf1\\ansi\\fs24", "\x7d"⟩
  | heading level =>
    if level.isNull then Outcome.fail (.missing "heading" "level")
    else Outcome.ofExcept do
      let size ← Rtf.wholePart (← Rtf.fontSize level)
      return ⟨"\x7b\\fs" ++ Text.paddedInt 2 size ++ "\\b ", "\\b\x7d" ++ Rtf.paragraphBreak⟩
  | paragraph => return ⟨[], Rtf.paragraphBreak⟩
  | bulletList => return ⟨"\x7b\\par ", "\x7d" ++ Rtf.lineBreak⟩
  | listItem => return ⟨"\\bullet\\tab ", Rtf.lineBreak⟩
  | strong => return ⟨"\\b ", "\\b0 "⟩
  | emphasis => return ⟨"\\i ", "\\i0 "⟩
  | inlineCode => return ⟨"\\i\\ul ", "\\ul0\\i0 "⟩
  | link url _ =>
    if url.isNull then Outcome.fail (.missing "link" "url")
    else Outcome.ofExcept (Rtf.hyperlink context url)
  | element tag _ => do
    Outcome.note (.noRule tag)
    return ⟨Rtf.fallback context.unicodeMode tag, []⟩

/-- **The RTF of a branch** whose children have the RTF `children`. -/
def rule (context : RenderContext) (children : Text) (b : Branch) : Outcome Rendered := do
  return .text ((← b.enclosure context).around children)

end Branch

namespace Node

/-- The RTF of a node whose children have been rendered. -/
def rule (fs : FileSystem) (context : RenderContext) (children : List Rendered) (n : Node) :
    Outcome Rendered := do
  let body ← Outcome.ofExcept (Rendered.join children)
  match n with
  | leaf l => l.rule fs context
  | branch b _ _ => b.rule context body
  | misfilled b _ _ => b.rule context body

end Node

end RichText
