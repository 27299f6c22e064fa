import RichText.Markdown.Line

/-!
# Markdown/Html — HTML between Markdown

Tags, comments, instructions, declarations and character data at the start of a text, and the lines
that begin and end blocks of HTML.  A recogniser gives what follows the construct it knows.
-/

namespace RichText.Markdown.Html

/-! ## Constructs -/

/-- What follows a text at the start of another one. -/
def after? (start : Text) (t : Text) : Option Text :=
  if start.isPrefixOf t then some (t.drop start.length) else none

/-- What follows the first occurrence of a text. -/
def afterFirst? (mark : Text) : Text → Option Text
  | [] => none
  | c :: rest => match after? mark (c :: rest) with
    | some found => some found
    | none => afterFirst? mark rest

def isTagChar (c : CodePoint) : Bool := c.isAlphanum || c.is '-'

/-- What follows the name of a tag. -/
def tagName? : Text → Option Text
  | c :: rest => if c.isLetter then some (rest.dropWhile isTagChar) else none
  | [] => none

def startsAttribute (c : CodePoint) : Bool := c.isLetter || c.is '_' || c.is ':'

def isAttributeChar (c : CodePoint) : Bool :=
  startsAttribute c || c.isDigit || c.is '.' || c.is '-'

/-- A code point of an attribute value without quotation marks. -/
def isBareChar (c : CodePoint) : Bool :=
  0x20 < c.code && !("\"'=<>\x60".toList.any (c.is ·))

/-- What follows a value between quotation marks; the text begins behind the first one. -/
def quotedValue? (mark : Char) (t : Text) : Option Text :=
  match t.dropWhile (· != .char mark) with
  | _ :: rest => some rest
  | [] => none

/-- What follows the value of an attribute. -/
def attributeValue? : Text → Option Text
  | .char '"' :: rest => quotedValue? '"' rest
  | .char '\'' :: rest => quotedValue? '\'' rest
  | t => match t.dropWhile isBareChar with
    | rest => if rest.length < t.length then some rest else none

/-- What follows an equals sign and a value, if both are there. -/
def assignment? (t : Text) : Option Text :=
  match t.dropWhile isWhite with
  | .char '=' :: rest => attributeValue? (rest.dropWhile isWhite)
  | _ => none

/-- What follows an attribute with the white space before it. -/
def attribute? (t : Text) : Option Text :=
  match t.dropWhile isWhite with
  | c :: rest =>
    if startsAttribute c && (t.head?.any isWhite) then
      let rest := rest.dropWhile isAttributeChar
      some ((assignment? rest).getD rest)
    else none
  | [] => none

/-- What follows attributes. -/
def attributes (fuel : Nat) (t : Text) : Text :=
  match fuel, attribute? t with
  | fuel + 1, some rest => attributes fuel rest
  | _, _ => t

/-- What follows the end of an opening tag. -/
def tagEnd? (t : Text) : Option Text :=
  match t.dropWhile isWhite with
  | .char '/' :: .char '>' :: rest => some rest
  | .char '>' :: rest => some rest
  | _ => none

/-- What follows an opening tag. -/
def openTag? (t : Text) : Option Text := do
  let rest ← tagName? (← after? "<" t)
  tagEnd? (attributes rest.length rest)

/-- What follows a closing tag. -/
def closingTag? (t : Text) : Option Text := do
  let rest ← tagName? (← after? "</" t)
  after? ">" (rest.dropWhile isWhite)

/-- What follows a comment. -/
def comment? (t : Text) : Option Text := do
  let rest ← after? "<!--" t
  match after? ">" rest, after? "->" rest with
  | some rest, _ => some rest
  | _, some rest => some rest
  | none, none => afterFirst? "-->" rest

/-- What follows an instruction. -/
def instruction? (t : Text) : Option Text := do afterFirst? "?>" (← after? "<?" t)

/-- What follows a declaration. -/
def declaration? (t : Text) : Option Text := do
  let rest ← after? "<!" t
  if rest.head?.any (·.isLetter) then afterFirst? ">" rest else none

/-- What follows character data. -/
def characterData? (t : Text) : Option Text := do afterFirst? "]]>" (← after? "<![CDATA[" t)

/-- **What follows a construct of HTML** at the start of a text. -/
def construct? (t : Text) : Option Text :=
  (openTag? t) <|> (closingTag? t) <|> (comment? t) <|> (instruction? t) <|> (declaration? t)
    <|> (characterData? t)

/-! ## Blocks -/

/-- What ends a block of HTML. -/
inductive Ending
  /-- A line with one of some texts in it. -/
  | mark (texts : List Text)
  /-- A blank line. -/
  | blank

/-- The names of tags that hold text of their own kind. -/
def rawNames : List Text := ["script", "pre", "textarea", "style"]

/-- The names of tags that begin a block. -/
def blockNames : List Text :=
  ["address", "article", "aside", "base", "basefont", "blockquote", "body", "caption", "center",
    "col", "colgroup", "dd", "details", "dialog", "dir", "div", "dl", "dt", "fieldset",
    "figcaption", "figure", "footer", "form", "frame", "frameset", "h1", "h2", "h3", "h4", "h5",
    "h6", "head", "header", "hr", "html", "iframe", "legend", "li", "link", "main", "menu",
    "menuitem", "nav", "noframes", "ol", "optgroup", "option", "p", "param", "search", "section",
    "summary", "table", "tbody", "td", "tfoot", "th", "thead", "title", "tr", "track", "ul"].map
    Text.ofString

/-- A text with its ASCII capital letters in lower case. -/
def lowered (t : Text) : Text := t.map fun c => match c with
  | .char x => .char x.toLower
  | c => c

/-- Whether the name of a tag has ended. -/
def endsName (t : Text) : Bool := t.head?.all fun c => isWhite c || c.is '>'

/-- Whether a line begins with a tag of one of some names; the text begins behind the bracket. -/
def beginsWith (names : List Text) (t : Text) : Bool :=
  let name := t.takeWhile (·.isAlphanum)
  let rest := t.drop name.length
  names.contains (lowered name) && (endsName rest || (after? "/>" rest).isSome)

/-- Whether a line is a tag and nothing else. -/
def isTagAlone (t : Text) : Bool :=
  ((openTag? t) <|> (closingTag? t)).any (·.all isWhite)

/-- **What ends the block of HTML that a line begins**, if it begins one.  A tag alone on its line
does not interrupt a paragraph. -/
def ending? (interrupts : Bool) (t : Text) : Option Ending :=
  match t with
  | .char '<' :: rest =>
    let name := rest.takeWhile (·.isAlphanum)
    if rawNames.contains (lowered name) && endsName (rest.drop name.length) then
      some (.mark (rawNames.map fun n => "</" ++ n ++ ">"))
    else if (after? "!--" rest).isSome then some (.mark ["-->"])
    else if (after? "?" rest).isSome then some (.mark ["?>"])
    else if ((after? "!" rest).bind List.head?).any (·.isLetter) then some (.mark [">"])
    else if (after? "![CDATA[" rest).isSome then some (.mark ["]]>"])
    else if beginsWith blockNames ((after? "/" rest).getD rest) then some .blank
    else if !interrupts && isTagAlone t then some .blank
    else none
  | _ => none

/-- Whether a line ends a block of HTML. -/
def Ending.isIn (line : Text) : Ending → Bool
  | .mark texts => texts.any fun t => (afterFirst? t (lowered line)).isSome
  | .blank => false

end RichText.Markdown.Html
