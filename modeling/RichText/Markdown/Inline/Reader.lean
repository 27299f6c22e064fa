import RichText.Markdown.Html
import RichText.Markdown.Inline.Emphasis

/-!
# Markdown/Inline/Reader — the parts of a text

A text is read once from left to right.  Code, HTML and addresses between angle brackets are taken
where they begin.  A closing bracket looks back to the last opening one: with a target or the label of
one behind it, what stands between the two is a link or an image, and otherwise both are text.  A link
holds no other link.
-/

namespace RichText.Markdown

/-- An opening bracket: what it is, whether it can still begin a link, the text behind it, whether
another bracket has been opened since, and the pieces before it, last one first. -/
structure Bracket where
  isImage : Bool
  isActive : Bool
  source : Text
  isDeep : Bool
  before : List Piece

/-- Where the reader is: the pieces behind the last open bracket, last one first, the open brackets,
innermost first, and the code point passed last. -/
structure InlineReader where
  pieces : List Piece := []
  brackets : List Bracket := []
  last : CodePoint := '\n'

namespace InlineReader

/-- What a text is read with: the targets that are defined, and whether tildes strike out. -/
structure Setting where
  definitions : List Definition
  strikethrough : Bool

/-- The reader with one more part. -/
def push (r : InlineReader) (i : Inline) (last : CodePoint) : InlineReader :=
  { r with pieces := .inline i :: r.pieces, last := last }

/-- The reader behind a text of which nothing is special. -/
def pushText (r : InlineReader) (t : Text) : InlineReader :=
  r.push (.text t) (t.getLastD r.last)

/-! ## Code -/

/-- What stands before the next run of as many marks, and what follows the run; `skipped` is in front
of the text. -/
def untilTicks? (fuel n : Nat) (skipped : Text) (t : Text) : Option (Text × Text) :=
  match fuel with
  | 0 => none
  | fuel + 1 =>
    let before := t.takeWhile (!·.is '\x60')
    let rest := t.drop before.length
    let ticks := rest.takeWhile (·.is '\x60')
    if ticks.isEmpty then none
    else if ticks.length == n then some (skipped ++ before, rest.drop n)
    else untilTicks? fuel n (skipped ++ before ++ ticks) (rest.drop ticks.length)

/-- The text of a span of code: line ends are spaces, and one space at either end is left out unless
there is nothing else. -/
def codeText (t : Text) : Text :=
  let t : Text := t.map fun c => if c.is '\n' then .char ' ' else c
  if (t.head?.any (·.is ' ')) && (t.getLast?.any (·.is ' ')) && t.any (!·.is ' ') then
    (t.drop 1).dropLast
  else t

/-! ## Addresses -/

def isSchemeChar (c : CodePoint) : Bool := c.isAlphanum || c.is '+' || c.is '.' || c.is '-'

/-- A URL between angle brackets and what follows it; the text begins behind the first one. -/
def autolink? (t : Text) : Option (Text × Text) :=
  let scheme := t.takeWhile isSchemeChar
  if (t.head?.any (·.isLetter)) && 2 ≤ scheme.length && scheme.length ≤ 32 then
    match t.drop scheme.length with
    | .char ':' :: rest =>
      let address := rest.takeWhile fun c => 0x20 < c.code && !c.is '<' && !c.is '>'
      match rest.drop address.length with
      | .char '>' :: rest => some (scheme ++ .char ':' :: address, rest)
      | _ => none
    | _ => none
  else none

def isMailboxChar (c : CodePoint) : Bool :=
  c.isAlphanum || ".!#$%&'*+/=?^_\x60\x7b|\x7d~-".toList.any (c.is ·)

/-- A part of the name of a host. -/
def isHostLabel (t : Text) : Bool :=
  0 < t.length && t.length ≤ 63 && t.all (fun c => c.isAlphanum || c.is '-')
    && (t.head?.all (!·.is '-')) && (t.getLast?.all (!·.is '-'))

/-- An address of mail between angle brackets and what follows it; the text begins behind the first
one. -/
def mailLink? (t : Text) : Option (Text × Text) :=
  let mailbox := t.takeWhile isMailboxChar
  match t.drop mailbox.length with
  | .char '@' :: rest =>
    let host : Text := rest.takeWhile fun c => c.isAlphanum || c.is '-' || c.is '.'
    match rest.drop host.length with
    | .char '>' :: rest =>
      if !mailbox.isEmpty && (host.splitOn (.char '.')).all isHostLabel then
        some (mailbox ++ .char '@' :: host, rest)
      else none
    | _ => none
  | _ => none

/-- The reader behind what an angle bracket begins, and what follows it; the text begins behind the
bracket. -/
def angle (r : InlineReader) (t : Text) : InlineReader × Text :=
  match autolink? t, mailLink? t with
  | some (address, rest), _ => (r.push (.link (.ofAddress address) [.text address]) '>', rest)
  | _, some (address, rest) =>
    (r.push (.link (.ofAddress ("mailto:" ++ address)) [.text address]) '>', rest)
  | none, none =>
    let source : Text := '<' :: t
    match Html.construct? source with
    | some rest => (r.push (.html (source.take (source.length - rest.length))) '>', rest)
    | none => (r.pushText "<", t)

/-! ## Breaks -/

/-- The spaces at the end of the last part, and the pieces without them. -/
def trailingSpaces : List Piece → Nat × List Piece
  | .inline (.text t) :: rest =>
    let kept := Text.trimEnd (·.is ' ') t
    (t.length - kept.length, .inline (.text kept) :: rest)
  | pieces => (0, pieces)

/-- The reader behind a line end.  Two spaces before it make it a hard break. -/
def lineEnd (r : InlineReader) : InlineReader :=
  let (spaces, pieces) := trailingSpaces r.pieces
  { r with pieces := .inline (if 2 ≤ spaces then .hardBreak else .softBreak) :: pieces, last := '\n' }

/-! ## Brackets -/

/-- The reader behind an opening bracket; the text begins behind it. -/
def openBracket (r : InlineReader) (isImage : Bool) (t : Text) : InlineReader :=
  let outer := match r.brackets with
    | b :: rest => { b with isDeep := true } :: rest
    | [] => []
  { pieces := [], brackets := ⟨isImage, true, t, false, r.pieces⟩ :: outer, last := '[' }

/-- The text of an opening bracket. -/
def Bracket.text (b : Bracket) : Text := if b.isImage then "![" else "["

/-- The pieces before an opening bracket, the bracket as text and the pieces behind it. -/
def unopened (b : Bracket) (pieces : List Piece) : List Piece :=
  pieces ++ .inline (.text (Bracket.text b)) :: b.before

/-- The target behind a closing bracket, in parentheses or by its label, and what follows it. -/
def target? (s : Setting) (b : Bracket) (t : Text) : Option (Target × Text) :=
  match inlineTarget? t with
  | some found => some found
  | none =>
    let own := b.source.take (b.source.length - t.length - 1)
    match label? t with
    | some (label, rest) =>
      if label.isEmpty then
        if b.isDeep then none else (Definition.find? s.definitions own).map fun d => (d, rest)
      else (Definition.find? s.definitions label).map fun d => (d, rest)
    | none => if b.isDeep then none else (Definition.find? s.definitions own).map fun d => (d, t)

/-- The reader behind a closing bracket, and what follows it; the text begins behind the bracket. -/
def closeBracket (s : Setting) (r : InlineReader) (t : Text) : InlineReader × Text :=
  match r.brackets with
  | [] => (r.pushText "]", t)
  | b :: outer =>
    match if b.isActive then target? s b t else none with
    | some (target, rest) =>
      let children := Piece.resolve r.pieces.reverse
      if b.isImage then
        (⟨.inline (.image target children) :: b.before, outer, ')'⟩, rest)
      else
        let outer := outer.map fun b => if b.isImage then b else { b with isActive := false }
        (⟨.inline (.link target children) :: b.before, outer, ')'⟩, rest)
    | none =>
      let r : InlineReader := { r with pieces := unopened b r.pieces, brackets := outer }
      (r.pushText "]", t)

/-! ## Texts -/

/-- The characters that may be more than text. -/
def specials : List Char := "\n\\\x60*_[]!<".toList

/-- A code point that may be more than text; a tilde is one where tildes strike out. -/
def isSpecial (s : Setting) (c : CodePoint) : Bool :=
  specials.any (c.is ·) || (s.strikethrough && c.is '~')

/-- The reader behind a run of a mark, and what follows it. -/
def marks (r : InlineReader) (mark : Char) (t : Text) : InlineReader × Text :=
  let n := (t.takeWhile (·.is mark)).length
  let rest := t.drop n
  let run := Run.between mark n r.last (rest.headD '\n')
  if mark == '~' && n != 2 then (r.pushText (t.take n), rest)
  else ({ r with pieces := .run run :: r.pieces, last := mark }, rest)

/-- The reader behind the next part of a text, and what follows it. -/
def step (s : Setting) (r : InlineReader) (c : CodePoint) (rest : Text) : InlineReader × Text :=
  if c.is '\n' then (r.lineEnd, rest.dropWhile (·.is ' '))
  else if c.is '\\' then
    match rest with
    | .char '\n' :: rest => (r.push .hardBreak '\n', rest.dropWhile (·.is ' '))
    | x :: rest => if isMark x then (r.pushText [x], rest) else (r.pushText "\\", x :: rest)
    | [] => (r.pushText "\\", [])
  else if c.is '\x60' then
    let n := 1 + (rest.takeWhile (·.is '\x60')).length
    let behind := rest.drop (n - 1)
    match untilTicks? (behind.length + 1) n [] behind with
    | some (code, rest) => (r.push (.code (codeText code)) '\x60', rest)
    | none => (r.pushText (List.replicate n (.char '\x60')), behind)
  else if c.is '*' then r.marks '*' (c :: rest)
  else if c.is '_' then r.marks '_' (c :: rest)
  else if c.is '~' && s.strikethrough then r.marks '~' (c :: rest)
  else if c.is '[' then (r.openBracket false rest, rest)
  else if c.is ']' then r.closeBracket s rest
  else if c.is '!' then
    match rest with
    | .char '[' :: rest => (r.openBracket true rest, rest)
    | rest => (r.pushText "!", rest)
  else if c.is '<' then r.angle rest
  else
    let plain := c :: rest.takeWhile fun x => !isSpecial s x
    (r.pushText plain, rest.drop (plain.length - 1))

/-- The reader behind a text.  Every step takes a code point. -/
def run (s : Setting) (fuel : Nat) (r : InlineReader) (t : Text) : InlineReader :=
  match fuel, t with
  | fuel + 1, c :: rest =>
    let (r, rest) := r.step s c rest
    run s fuel r rest
  | _, _ => r

/-- All pieces, with the brackets that were not closed as text, last one first. -/
def finished (r : InlineReader) : List Piece :=
  r.brackets.foldl (fun pieces b => unopened b pieces) r.pieces

end InlineReader

namespace Inline

/-- **The parts of a text.** -/
def ofText (s : InlineReader.Setting) (t : Text) : List Inline :=
  Piece.resolve (InlineReader.run s t.length {} t).finished.reverse

end Inline

end RichText.Markdown
