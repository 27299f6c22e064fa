import RichText.Rtf.Lexeme

/-!
# Rtf/Word — control words as they are written and as they are read

    {  \rtf1  \ansi  \fs24  5  \tab  b      written: rtf1, ansi, fs24, tab
    {\rtf1\ansi\fs245\tabb                  read:    rtf1, ansi, fs245, tabb

RTF is written piece by piece, and its control words are found again by what stands behind them.  A
control word is ended by a mark, by a space or by the backslash of the next one.  Two of them are
written with nothing behind them: the font size of a document and the tab of a text.
-/

namespace RichText.Rtf

/-- **A control word**: its name, and its number if it has one. -/
structure ControlWord where
  name : Text
  number : Option Int
  deriving DecidableEq

def Lexeme.controlWord? : Lexeme → Option ControlWord
  | word name number => some ⟨name, number⟩
  | _ => none

/-- **The control words that are read in a text.** -/
def words (t : Text) : List ControlWord := (lexemes t).filterMap Lexeme.controlWord?

/-- **A piece that RTF is written with.** -/
inductive Piece
  | opening
  | closing
  | symbol (c : CodePoint)
  | char (c : CodePoint)
  /-- A control word, with a number of at least `width` digits if it has one. -/
  | word (w : ControlWord) (width : Nat)
  /-- The font size of a document. -/
  | fontSize
  /-- A tab of a text. -/
  | tab

namespace Piece

/-- The text of a piece. -/
def spelling : Piece → Text
  | opening => "\x7b"
  | closing => "\x7d"
  | symbol c => [.char '\\', c]
  | char c => [c]
  | word ⟨name, none⟩ _ => .char '\\' :: name
  | word ⟨name, some n⟩ width => .char '\\' :: name ++ Text.paddedInt width n
  | fontSize => "\\fs24"
  | tab => "\\tab"

/-- The control word that a piece is written as. -/
def written? : Piece → Option ControlWord
  | word w _ => some w
  | fontSize => some ⟨"fs", some 24⟩
  | tab => some ⟨"tab", none⟩
  | _ => none

/-- **The control word that a piece is read as** before a text.  A font size takes the digits that
follow, and a tab the letters that follow and then a number. -/
def read? (behind : Text) : Piece → Option ControlWord
  | fontSize => some ⟨"fs", some (Text.toNat ("24" ++ behind.takeWhile (·.isDigit)) : Nat)⟩
  | tab =>
    let name : Text := "tab" ++ behind.takeWhile (·.isLetter)
    some ⟨name, (leadingNumber (behind.dropWhile (·.isLetter))).1⟩
  | p => p.written?

/-- **Whether a piece runs into what stands behind it**: a font size into a digit, a tab into a
letter or a number. -/
def runsInto (behind : Text) : Piece → Bool
  | fontSize => behind.head?.any (·.isDigit)
  | tab => behind.head?.any (·.isLetter) || (leadingNumber behind).1.isSome
  | _ => false

/-- Whether a piece ends the control word before it. -/
def ends : Piece → Bool
  | char c => !(c.isLetter || c.isDigit || c.is '-')
  | _ => true

/-- Whether a piece is read as one lexeme, if it is ended: names are made of letters, symbols are no
letters, and a code point of its own is no backslash. -/
def isSound : Piece → Bool
  | word w _ => !w.name.isEmpty && w.name.all (·.isLetter)
  | symbol c => !c.isLetter
  | char c => !c.is '\\'
  | _ => true

/-- Whether a piece is ended by the next one, if it has to be. -/
def isEndedBy (next : Option Piece) : Piece → Bool
  | word _ _ => next.any ends
  | _ => true

end Piece

/-- **The text of pieces.** -/
def spelling (ps : List Piece) : Text := ps.flatMap Piece.spelling

/-- **The control words of pieces as they are written.** -/
def written (ps : List Piece) : List ControlWord := ps.filterMap Piece.written?

/-- **The control words of pieces as they are read** before a text. -/
def readBefore : List Piece → Text → List ControlWord
  | [], _ => []
  | p :: rest, behind => (p.read? (spelling rest ++ behind)).toList ++ readBefore rest behind

/-- Whether every control word that has to be ended is ended by the next piece. -/
def isSeparated : List Piece → Bool
  | [] => true
  | p :: rest => p.isSound && p.isEndedBy rest.head? && isSeparated rest

end RichText.Rtf
