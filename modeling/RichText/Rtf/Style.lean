import RichText.Rtf.Lexeme

/-!
# Rtf/Style — how a reader of RTF shows text

Text is bold, italic or underlined from the control word that says so up to the one that says no
more.  A group begins with the style around it, and behind it that style is back.
-/

namespace RichText.Rtf

/-- **How text is shown.** -/
structure Style where
  bold : Bool := false
  italic : Bool := false
  underline : Bool := false
  deriving DecidableEq

/-- What a style switches on and off. -/
inductive Attribute
  | bold
  | italic
  | underline
  deriving DecidableEq

namespace Style

/-- Whether an attribute is on. -/
def has (s : Style) : Attribute → Bool
  | .bold => s.bold
  | .italic => s.italic
  | .underline => s.underline

/-- The style with more attributes on. -/
def including (s : Style) (on : Attribute → Bool) : Style :=
  ⟨s.bold || on .bold, s.italic || on .italic, s.underline || on .underline⟩

/-- The style with attributes off. -/
def excluding (s : Style) (off : Attribute → Bool) : Style :=
  ⟨s.bold && !off .bold, s.italic && !off .italic, s.underline && !off .underline⟩

@[simp] theorem has_including (s : Style) (on : Attribute → Bool) (a : Attribute) :
    (s.including on).has a = (s.has a || on a) := by cases a <;> rfl

@[simp] theorem has_excluding (s : Style) (off : Attribute → Bool) (a : Attribute) :
    (s.excluding off).has a = (s.has a && !off a) := by cases a <;> rfl

/-- **A style is what it has on.** -/
theorem ext_has {s t : Style} (h : ∀ a, s.has a = t.has a) : s = t := by
  obtain ⟨b, i, u⟩ := s
  obtain ⟨b', i', u'⟩ := t
  obtain rfl : b = b' := h .bold
  obtain rfl : i = i' := h .italic
  obtain rfl : u = u' := h .underline
  rfl

/-- The style behind a control word; the number zero takes back what the word says. -/
def apply (s : Style) (name : Text) (number : Option Int) : Style :=
  let on := number != some 0
  if name == "b" then { s with bold := on }
  else if name == "i" then { s with italic := on }
  else if name == "ul" then { s with underline := on }
  else s

/-- Whatever one style asks for, another one does as well. -/
def isWithin (s t : Style) : Bool :=
  (!s.bold || t.bold) && (!s.italic || t.italic) && (!s.underline || t.underline)

theorem isWithin_iff {s t : Style} :
    s.isWithin t = true ↔ ∀ a, s.has a = true → t.has a = true := by
  have key : ∀ x y : Bool, (!x || y) = true ↔ (x = true → y = true) := by decide
  rw [isWithin, Bool.and_eq_true, Bool.and_eq_true, key, key, key]
  exact ⟨fun ⟨⟨hb, hi⟩, hu⟩ a => match a with | .bold => hb | .italic => hi | .underline => hu,
    fun h => ⟨⟨h .bold, h .italic⟩, h .underline⟩⟩

end Style

/-- Where a reader is: the style there, and the styles around the open groups, innermost first. -/
structure StyleReader where
  style : Style := {}
  outer : List Style := []
  deriving DecidableEq

namespace StyleReader

/-- The reader behind one more lexeme. -/
def next (r : StyleReader) : Lexeme → StyleReader
  | .opening => ⟨r.style, r.style :: r.outer⟩
  | .closing =>
    match r.outer with
    | s :: outer => ⟨s, outer⟩
    | [] => r
  | .word name number => { r with style := r.style.apply name number }
  | _ => r

/-- The reader behind lexemes. -/
def readAll (r : StyleReader) (lexemes : List Lexeme) : StyleReader := lexemes.foldl next r

end StyleReader

end RichText.Rtf
