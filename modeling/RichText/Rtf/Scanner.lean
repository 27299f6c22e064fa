import RichText.Rtf.Style

/-!
# Rtf/Scanner — reading RTF code point by code point

`lexemes` cuts a whole text into control words, symbols and braces before anything is shown.  A
scanner goes through the text once: it holds the reader so far and what it has seen of a control word
that may go on, so that what it holds between two code points is what a reader knows there.  A control
word counts as soon as the code point is there that ends it.
-/

namespace RichText.Rtf

/-- **What has been seen of a lexeme** that may go on. -/
inductive Pending
  | nothing
  | backslash
  | word (name : Text)
  /-- A minus sign behind the name, which belongs to a number if a digit follows. -/
  | sign (name : Text)
  | number (name : Text) (negative : Bool) (digits : Text)

/-- The number that digits behind a control word spell. -/
def numberOf (negative : Bool) (digits : Text) : Int :=
  let n : Int := Text.toNat digits
  if negative then -n else n

/-- The lexeme that is complete if nothing more belongs to it. -/
def Pending.lexeme? : Pending → Option Lexeme
  | nothing => none
  | backslash => some .loneBackslash
  | word name => some (.word name none)
  | sign name => some (.word name none)
  | number name negative digits => some (.word name (some (numberOf negative digits)))

/-- **A reader between two code points.** -/
structure Scanner where
  reader : StyleReader := {}
  pending : Pending := .nothing

namespace Scanner

/-- The style of what is read next. -/
def style (x : Scanner) : Style := x.reader.style

/-- The reader once it is known that nothing more belongs to the pending lexeme. -/
def settled (x : Scanner) : StyleReader :=
  match x.pending.lexeme? with
  | some l => x.reader.next l
  | none => x.reader

/-- The scanner behind a code point that begins a lexeme. -/
def begin (r : StyleReader) (c : CodePoint) : Scanner :=
  if c.is '{' then ⟨r.next .opening, .nothing⟩
  else if c.is '}' then ⟨r.next .closing, .nothing⟩
  else if c.is '\\' then ⟨r, .backslash⟩
  else ⟨r.next (.char c), .nothing⟩

/-- The scanner behind one more code point. -/
def next (x : Scanner) (c : CodePoint) : Scanner :=
  match x.pending with
  | .nothing => begin x.reader c
  | .backslash =>
    if c.isLetter then ⟨x.reader, .word [c]⟩ else ⟨x.reader.next (.symbol c), .nothing⟩
  | .word name =>
    if c.isLetter then ⟨x.reader, .word (name ++ [c])⟩
    else if c.isDigit then ⟨x.reader, .number name false [c]⟩
    else if c.is '-' then ⟨x.reader, .sign name⟩
    else if c.is ' ' then ⟨x.settled, .nothing⟩
    else begin x.settled c
  | .sign name =>
    if c.isDigit then ⟨x.reader, .number name true [c]⟩ else begin x.settled c
  | .number name negative digits =>
    if c.isDigit then ⟨x.reader, .number name negative (digits ++ [c])⟩
    else if c.is ' ' then ⟨x.settled, .nothing⟩
    else begin x.settled c

/-- The scanner behind a text. -/
def scan (x : Scanner) (t : Text) : Scanner := t.foldl next x

@[simp] theorem scan_nil (x : Scanner) : x.scan [] = x := rfl

@[simp] theorem scan_cons (x : Scanner) (c : CodePoint) (t : Text) :
    x.scan (c :: t) = (x.next c).scan t := rfl

/-- **A scanner goes on where it was left.** -/
theorem scan_append (x : Scanner) (s t : Text) : x.scan (s ++ t) = (x.scan s).scan t :=
  List.foldl_append

/-- The styles a text is read in: one before every code point, and one behind the last. -/
def styles (x : Scanner) : Text → List Style
  | [] => [x.style]
  | c :: rest => x.style :: (x.next c).styles rest

end Scanner

/-- **The style behind RTF** that is read from its beginning. -/
def styleBehind (t : Text) : Style := (Scanner.scan {} t).style

end RichText.Rtf
