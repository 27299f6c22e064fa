import RichText.Render.Walk
import RichText.Rtf.Word

/-!
# Render/Piece — the pieces that a tree is written with

The RTF of a node is written piece by piece: the pieces in front of its children, those of the
children, and the pieces behind them.  Text is written code point by code point.
-/

namespace RichText

namespace Rtf

/-- A text without markup. -/
def charPieces (t : Text) : List Piece := t.map .char

/-- The pieces of one decimal escape. -/
def groupPieces (n : Nat) : List Piece :=
  [.word ⟨"ud", none⟩ 0, .opening, .word ⟨"uc", some 6⟩ 0, .word ⟨"u", some n⟩ 6, .closing]

/-- The pieces of one code point of a text. -/
def codePieces (mode : UnicodeMode) (c : CodePoint) : List Piece :=
  match c with
  | .char '\\' => [.symbol c]
  | .char '{' => [.symbol c]
  | .char '}' => [.symbol c]
  | .char '\t' => [.tab]
  | c =>
    if c.isAscii then [.char c]
    else match mode with
      | .utf16 => c.units16.flatMap groupPieces
      | .codepoint => groupPieces c.code

/-- **The pieces of a text.** -/
def textPieces (mode : UnicodeMode) (t : Text) : List Piece := t.flatMap (codePieces mode)

/-- The pieces of a content; there are none where it is no text. -/
def contentPieces (mode : UnicodeMode) : Value → List Piece
  | .text t => textPieces mode t
  | _ => []

/-- The name of a kind in parentheses. -/
def fallbackPieces (mode : UnicodeMode) (kind : Value) : List Piece :=
  textPieces mode ("(" ++ kind.shown ++ ")")

/-- The pieces in front of what a field shows. -/
def linkFront (context : RenderContext) (url : Value) : List Piece :=
  match Url.resolve url context.baseUrl >>= Url.quote with
  | .ok target =>
    [.opening, .word ⟨"field", none⟩ 0, .opening, .symbol (.char '*'), .word ⟨"fldinst", none⟩ 0,
      .opening] ++ charPieces ("HYPERLINK " ++ target)
      ++ [.closing, .closing, .opening, .word ⟨"fldrslt", none⟩ 0, .char (.char ' ')]
  | .error _ => []

/-- The pieces behind what a field shows. -/
def linkBack : List Piece := [.closing, .closing]

/-- The control word for the format of a picture. -/
def blipPieces (format : Text) : List Piece :=
  if format == "png" then [.word ⟨"pngblip", none⟩ 0]
  else if format == "jpg" || format == "jpeg" then [.word ⟨"jpegblip", none⟩ 0]
  else []

/-- The control word for the size of a picture in one direction. -/
def lengthPieces (name : Text) (v : Value) : List Piece :=
  if v.truthy then
    match twips v with
    | .ok length => [.word ⟨name, some length⟩ 0]
    | .error _ => []
  else []

/-- The pieces of an embedded picture. -/
def picturePieces (image : EmbeddedImage) (width height : Value) : List Piece :=
  [.opening, .symbol (.char '*'), .word ⟨"shppict", none⟩ 0, .opening, .word ⟨"pict", none⟩ 0]
    ++ blipPieces image.format ++ lengthPieces "picwgoal" width ++ lengthPieces "pichgoal" height
    ++ charPieces (" " ++ Text.ofBytes image.data) ++ [.closing, .closing]

/-- The pieces of a break. -/
def breakPieces (count : Nat) : List Piece :=
  List.replicate count (.word ⟨"line", none⟩ 0) ++ [.char (.char ' ')]

end Rtf

open Rtf

/-- **The pieces of a leaf.** -/
def Leaf.pieces (fs : FileSystem) (context : RenderContext) : Leaf → List Piece
  | text content _ => contentPieces context.unicodeMode content
  | image url alt _ width height _ =>
    let link := linkFront context url ++ contentPieces context.unicodeMode alt ++ linkBack
    match context.imageLoader with
    | none => link
    | some loader => match (loader.load fs url).result with
      | .ok (some source) => picturePieces source width height
      | _ => link
  | foreign name => fallbackPieces context.unicodeMode (.text name.lower)
  | stray _ => []

namespace Branch

/-- **The pieces in front of the children of a branch.** -/
def front (context : RenderContext) : Branch → List Piece
  | document => [.opening, .word ⟨"rtf", some 1⟩ 0, .word ⟨"ansi", none⟩ 0, .fontSize]
  | heading level => match fontSize level >>= wholePart with
    | .ok size =>
      [.opening, .word ⟨"fs", some size⟩ 2, .word ⟨"b", none⟩ 0, .char (.char ' ')]
    | .error _ => []
  | paragraph => []
  | bulletList => [.opening, .word ⟨"par", none⟩ 0, .char (.char ' ')]
  | listItem => [.word ⟨"bullet", none⟩ 0, .word ⟨"tab", none⟩ 0, .char (.char ' ')]
  | strong => [.word ⟨"b", none⟩ 0, .char (.char ' ')]
  | emphasis => [.word ⟨"i", none⟩ 0, .char (.char ' ')]
  | inlineCode => [.word ⟨"i", none⟩ 0, .word ⟨"ul", none⟩ 0, .char (.char ' ')]
  | link url _ => linkFront context url
  | element tag _ => fallbackPieces context.unicodeMode tag

/-- **The pieces behind the children of a branch.** -/
def back : Branch → List Piece
  | document => [.closing]
  | heading _ => [.word ⟨"b", none⟩ 0, .closing] ++ breakPieces 2
  | paragraph => breakPieces 2
  | bulletList => .closing :: breakPieces 1
  | listItem => breakPieces 1
  | strong => [.word ⟨"b", some 0⟩ 0, .char (.char ' ')]
  | emphasis => [.word ⟨"i", some 0⟩ 0, .char (.char ' ')]
  | inlineCode => [.word ⟨"ul", some 0⟩ 0, .word ⟨"i", some 0⟩ 0, .char (.char ' ')]
  | link _ _ => linkBack
  | element _ _ => []

end Branch

namespace Node

mutual

/-- **The pieces of a tree.** -/
def pieces (fs : FileSystem) (context : RenderContext) : Node → List Piece
  | leaf l => l.pieces fs context
  | branch b children _ => b.front context ++ allPieces fs context children ++ b.back
  | misfilled b _ _ => b.front context ++ b.back

/-- The pieces of trees up to the first null. -/
def allPieces (fs : FileSystem) (context : RenderContext) : List Node → List Piece
  | [] => []
  | n :: rest => if n.isNull then [] else pieces fs context n ++ allPieces fs context rest

end

end Node

end RichText
