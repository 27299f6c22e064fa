import RichText.Text

/-!
# Rtf/Nesting — groups in RTF

An opening brace begins a group and a closing one ends it, unless a backslash stands before it.
`Nesting.scan` goes through a text and counts the groups that are open, so that the nesting behind two
texts is that of the second one begun with that of the first (`scan_append`).
-/

namespace RichText.Rtf

/-- **Where a scan for groups is**: how many are open, and whether a backslash stands before the next
code point. -/
structure Nesting where
  depth : Nat := 0
  isEscaped : Bool := false
  deriving DecidableEq

namespace Nesting

/-- The nesting behind one more code point; there is none behind a brace that closes nothing. -/
def next? (n : Nesting) (c : CodePoint) : Option Nesting :=
  if n.isEscaped then some ⟨n.depth, false⟩
  else if c.is '\\' then some ⟨n.depth, true⟩
  else if c.is '{' then some ⟨n.depth + 1, false⟩
  else if c.is '}' then
    match n.depth with
    | 0 => none
    | depth + 1 => some ⟨depth, false⟩
  else some n

/-- The nesting behind a text. -/
def scan (n : Nesting) : Text → Option Nesting
  | [] => some n
  | c :: rest => (n.next? c).bind fun n => scan n rest

@[simp] theorem scan_nil (n : Nesting) : n.scan [] = some n := rfl

/-- **A scan goes on where it was left.** -/
theorem scan_append (n : Nesting) (s t : Text) :
    n.scan (s ++ t) = (n.scan s).bind fun n => n.scan t := by
  induction s generalizing n with
  | nil => rfl
  | cons c rest ih =>
    rw [List.cons_append, scan, scan]
    cases n.next? c with
    | none => rfl
    | some m => exact ih m

end Nesting

/-- Every group of a text is closed in it, nothing else is closed, and no backslash ends it. -/
def IsBalanced (t : Text) : Prop := Nesting.scan {} t = some {}

instance (t : Text) : Decidable (IsBalanced t) := inferInstanceAs (Decidable (_ = _))

theorem isBalanced_nil : IsBalanced [] := rfl

theorem IsBalanced.append {s t : Text} (hs : IsBalanced s) (ht : IsBalanced t) :
    IsBalanced (s ++ t) := by
  rw [IsBalanced, Nesting.scan_append, hs]
  exact ht

/-- A text is one group: it is balanced, it begins with an opening brace, and all of it before its
last code point is open. -/
def IsGroup (t : Text) : Prop :=
  IsBalanced t ∧ t.head? = some (.char '\x7b') ∧
    ∀ s, s <+: t → s ≠ [] → s ≠ t → ∃ n, Nesting.scan {} s = some n ∧ 0 < n.depth

end RichText.Rtf
