import RichText.Text.Line

/-!
# Proofs/Line — the one way to cut a text into lines

    body ++ boundary ++ rest ──lines──▸ (body ++ boundary) :: lines of rest

`IsInLines` says what it is for a text to stand in lines, without a way to find them: every line has
one boundary, at its end, and only the last line may do without.  A carriage return and a line feed
together are never cut apart.  `isInLines_iff` says that `Text.lines` finds the only such lines.
-/

namespace RichText.Text

variable {body boundary rest t : Text} {c : CodePoint} {ls : List Text}

/-- What ends a line: a carriage return and a line feed together, or one code point of the class. -/
def IsBoundary (boundary : Text) : Prop :=
  boundary = [.char '\r', .char '\n'] ∨ ∃ c : CodePoint, c.isLineEnd = true ∧ boundary = [c]

/-- No code point of a text ends a line. -/
def IsUnbroken (body : Text) : Prop := ∀ c ∈ body, c.isLineEnd = false

instance : DecidablePred IsUnbroken :=
  fun body => inferInstanceAs (Decidable (∀ c ∈ body, c.isLineEnd = false))

/-- **A text stands in lines**: each is unbroken up to the boundary at its end, and a last line may
have none. -/
inductive IsInLines : Text → List Text → Prop
  | nil : IsInLines [] []
  | last {body : Text} : body ≠ [] → IsUnbroken body → IsInLines body [body]
  | line {body boundary rest : Text} {ls : List Text} : IsUnbroken body → IsBoundary boundary →
      (boundary = [.char '\r'] → rest.head? ≠ some (.char '\n')) → IsInLines rest ls →
      IsInLines (body ++ boundary ++ rest) ((body ++ boundary) :: ls)

theorem IsUnbroken.head (h : IsUnbroken (c :: body)) : c.isLineEnd = false :=
  h c List.mem_cons_self

theorem IsUnbroken.tail (h : IsUnbroken (c :: body)) : IsUnbroken body :=
  fun d hd => h d (List.mem_cons_of_mem c hd)

theorem IsUnbroken.cons (hc : c.isLineEnd = false) (h : IsUnbroken body) :
    IsUnbroken (c :: body) := by
  intro d hd
  rcases List.mem_cons.mp hd with rfl | hd
  · exact hc
  · exact h d hd

/-- A code point that ends no line goes to the first of the lines behind it. -/
theorem IsInLines.consLine (hc : c.isLineEnd = false) (h : IsInLines t ls) :
    IsInLines (c :: t) (consLine c ls) := by
  cases h with
  | nil => exact .last (List.cons_ne_nil c []) (.cons hc fun _ hd => absurd hd List.not_mem_nil)
  | last _ hbody => exact .last (List.cons_ne_nil c t) (.cons hc hbody)
  | line hbody hboundary hapart hrest => exact .line (.cons hc hbody) hboundary hapart hrest

/-- **A text stands in its lines.** -/
theorem isInLines_lines (t : Text) : IsInLines t t.lines := by
  have hnil : IsUnbroken [] := fun _ hd => absurd hd List.not_mem_nil
  fun_induction lines t with
  | case1 => exact .nil
  | case2 rest ih => exact .line hnil (.inl rfl) (fun h => by cases h) ih
  | case3 c rest hcrlf hc ih =>
    refine .line hnil (.inr ⟨c, hc, rfl⟩) ?_ ih
    -- the two together would have been the case before
    intro hcr hlf
    obtain ⟨tail, rfl⟩ := List.head?_eq_some_iff.mp hlf
    exact hcrlf tail (List.head_eq_of_cons_eq hcr) rfl
  | case4 c rest _ hc ih => exact ih.consLine (Bool.eq_false_iff.mpr hc)

/-! ## There is no other way -/

theorem lines_cons (hc : c.isLineEnd = false) (rest : Text) :
    lines (c :: rest) = consLine c rest.lines := by
  rw [lines, if_neg (Bool.eq_false_iff.mp hc)]
  rintro tail rfl
  cases hc

theorem lines_of_isUnbroken (hne : body ≠ []) (h : IsUnbroken body) : body.lines = [body] := by
  induction body with
  | nil => exact absurd rfl hne
  | cons c body ih =>
    rw [lines_cons h.head]
    cases body with
    | nil => rfl
    | cons d body => rw [ih (List.cons_ne_nil d body) h.tail, Text.consLine]

/-- A boundary ends the first line, unless a line feed comes between the two. -/
theorem lines_boundary (hboundary : IsBoundary boundary)
    (hapart : boundary = [.char '\r'] → rest.head? ≠ some (.char '\n')) :
    (boundary ++ rest).lines = boundary :: rest.lines := by
  obtain rfl | ⟨c, hc, rfl⟩ := hboundary
  · rw [List.cons_append, List.singleton_append, lines]
  · rw [List.singleton_append, lines, if_pos hc]
    rintro tail rfl rfl
    exact hapart rfl rfl

theorem lines_append (hbody : IsUnbroken body) (hboundary : IsBoundary boundary)
    (hapart : boundary = [.char '\r'] → rest.head? ≠ some (.char '\n')) :
    (body ++ boundary ++ rest).lines = (body ++ boundary) :: rest.lines := by
  induction body with
  | nil => exact lines_boundary hboundary hapart
  | cons c body ih =>
    rw [List.cons_append, List.cons_append, lines_cons hbody.head, ih hbody.tail, Text.consLine]

/-- **A text stands in its lines and in no others.** -/
theorem isInLines_iff : IsInLines t ls ↔ ls = t.lines := by
  constructor
  · intro h
    induction h with
    | nil => rfl
    | last hne hbody => exact (lines_of_isUnbroken hne hbody).symm
    | line hbody hboundary hapart _ ih => rw [lines_append hbody hboundary hapart, ← ih]
  · rintro rfl
    exact isInLines_lines t

end RichText.Text
