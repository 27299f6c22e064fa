import Mathlib.Data.List.TakeWhile
import RichText.Proofs.Line
import RichText.Readers

/-!
# Proofs/FrontMatter — a text is cut at its front matter and nowhere else

    text = first ++ block ++ closing ++ rest
                      │                  │
                    read                 ▼
                      ▼               content
                  metadata

A text with front matter (`IsFenced`) has one cut (`IsCut`): behind its first line, and around the
first of the later lines that is a fence.  What is read is the block and what is left is the rest,
to the code point; a text without front matter is left as it is.  A block that is malformed gives no
mapping, but one that the reader fails for otherwise keeps the text from being extracted
(`extractWith_unless_failed`).
-/

namespace RichText.FrontMatter

variable {t first closing : Text} {block rest : List Text}

/-- **A text has front matter**: it begins with a fence and its line end, and one of the later lines
is a fence in white space. -/
structure IsFenced (t : Text) : Prop where
  opens : ("---\n" : Text) <+: t ∨ ("---\r\n" : Text) <+: t
  closes : ∃ lines, t.IsInLines lines ∧ ∃ line ∈ lines.tail, line.trim = "---"

/-- **A text cut at its front matter**: the line that opens the block, the lines of the block, the
first line that closes it, and the lines behind. -/
structure IsCut (t first : Text) (block : List Text) (closing : Text) (rest : List Text) :
    Prop where
  lines : t.IsInLines (first :: (block ++ closing :: rest))
  opens : first = "---\n" ∨ first = "---\r\n"
  within : ∀ line ∈ block, line.trim ≠ "---"
  closes : closing.trim = "---"

/-- The lines of a cut concatenate to the text. -/
theorem IsCut.eq_append (h : IsCut t first block closing rest) :
    t = first ++ block.flatten ++ closing ++ rest.flatten := by
  rw [← t.flatten_lines, ← Text.isInLines_iff.mp h.lines]
  simp

theorem IsCut.isFenced (h : IsCut t first block closing rest) : IsFenced t where
  opens := by
    rw [h.eq_append, List.append_assoc, List.append_assoc]
    rcases h.opens with rfl | rfl
    · exact .inl (List.prefix_append _ _)
    · exact .inr (List.prefix_append _ _)
  closes := ⟨_, h.lines, closing, by simp, h.closes⟩

/-! ## Where the lines are -/

theorem opens_iff :
    opens t = true ↔ ("---\n" : Text) <+: t ∨ ("---\r\n" : Text) <+: t := by
  rw [opens, Bool.or_eq_true, List.isPrefixOf_iff_prefix, List.isPrefixOf_iff_prefix]

theorem closes_iff {line : Text} : closes line = true ↔ line.trim = "---" := by
  rw [closes, beq_iff_eq]

theorem not_closes_iff {line : Text} : (!closes line) = true ↔ line.trim ≠ "---" := by
  rw [Bool.not_eq_true', ← Bool.not_eq_true, closes_iff]

/-- A fence and its line end are the first line of what they stand in front of. -/
theorem lines_fence (h : first = "---\n" ∨ first = "---\r\n") (later : Text) :
    (first ++ later).lines = first :: later.lines := by
  have hbare : Text.IsUnbroken "---" := by decide
  have hlf : Text.IsBoundary "\n" := .inr ⟨.char '\n', by decide, rfl⟩
  have hcrlf : Text.IsBoundary "\r\n" := .inl rfl
  obtain rfl | rfl := h
  · exact Text.lines_append hbare hlf (fun e => by cases e)
  · exact Text.lines_append hbare hcrlf (fun e => by cases e)

theorem lines_of_opens (h : opens t = true) :
    ∃ first, (first = ("---\n" : Text) ∨ first = ("---\r\n" : Text)) ∧
      t.lines = first :: t.lines.tail := by
  obtain ⟨later, rfl⟩ | ⟨later, rfl⟩ := opens_iff.mp h
  · exact ⟨_, .inl rfl, by rw [lines_fence (.inl rfl), List.tail_cons]⟩
  · exact ⟨_, .inr rfl, by rw [lines_fence (.inr rfl), List.tail_cons]⟩

/-- **A text with front matter can be cut there**, at the first line that closes the block. -/
theorem exists_isCut (h : IsFenced t) :
    ∃ first block closing rest, IsCut t first block closing rest := by
  obtain ⟨first, hfirst, hlines⟩ := lines_of_opens (opens_iff.mpr h.opens)
  obtain ⟨lines, hin, line, hmem, hline⟩ := h.closes
  rw [Text.isInLines_iff.mp hin] at hmem
  have hfound : (t.lines.tail.find? closes).isSome = true :=
    List.find?_isSome.mpr ⟨line, hmem, closes_iff.mpr hline⟩
  obtain ⟨closing, hclosing⟩ := Option.isSome_iff_exists.mp hfound
  obtain ⟨hcloses, block, rest, htail, hwithin⟩ := List.find?_eq_some_iff_append.mp hclosing
  refine ⟨first, block, closing, rest, ?_, hfirst, ?_, closes_iff.mp hcloses⟩
  · rw [← htail, ← hlines]
    exact Text.isInLines_lines t
  · intro line hline
    exact not_closes_iff.mp (hwithin line hline)

/-! ## Where a text is split -/

/-- A text that opens a block is split at the first line that closes it. -/
theorem split?_of_opens (h : opens t = true) :
    split? t =
      match t.lines.tail.drop (t.lines.tail.takeWhile (!closes ·)).length with
      | _ :: rest => some ((t.lines.tail.takeWhile (!closes ·)).flatten, rest.flatten)
      | [] => none := by
  rw [split?, h, List.drop_one]
  rfl

/-- **A text is split where it is cut.** -/
theorem split?_of_isCut (h : IsCut t first block closing rest) :
    split? t = some (block.flatten, rest.flatten) := by
  have hblock : ∀ line ∈ block, (!closes line) = true :=
    fun line hline => not_closes_iff.mpr (h.within line hline)
  have hclosing : ¬ (!closes closing) = true := fun hc => not_closes_iff.mp hc h.closes
  rw [split?_of_opens (opens_iff.mpr h.isFenced.opens), ← Text.isInLines_iff.mp h.lines,
    List.tail_cons, List.takeWhile_append_of_pos hblock,
    List.takeWhile_cons_of_neg (p := (!closes ·)) hclosing, List.append_nil, List.drop_left]

theorem split?_of_not_isFenced (h : ¬ IsFenced t) : split? t = none := by
  cases hopens : opens t with
  | false =>
    rw [split?, hopens]
    rfl
  | true =>
    have hall : ∀ line ∈ t.lines.tail, (!closes line) = true := by
      intro line hline
      refine not_closes_iff.mpr fun hcloses => h ⟨opens_iff.mp hopens, ?_⟩
      exact ⟨t.lines, Text.isInLines_lines t, line, hline, hcloses⟩
    rw [split?_of_opens hopens, List.takeWhile_eq_self_iff.mpr hall, List.drop_length]

/-! ## What is read and what is left -/

/-- The mapping that a block is read as; it is empty if the block is no mapping or is not read. -/
def mappingOf : Except Fault Value → List (Value × Value)
  | .ok (.dict entries) => entries
  | _ => []

/-- Only a scalar without a value keeps a block from giving a mapping. -/
theorem metadataOf_result {loaded : Except Fault Value}
    (h : ∀ f, loaded ≠ .error (.failed f)) :
    (metadataOf loaded).result = .ok (mappingOf loaded) := by
  rcases loaded with (_ | f) | v
  · rfl
  · exact absurd rfl (h f)
  · cases v <;> rfl

variable {read : Text → Except Fault Value} {o : MarkdownOptions}

theorem extractWith_of_not_isFenced (hon : o.parseFrontMatter.truthy = true) (h : ¬ IsFenced t) :
    extractWith read o t = pure ⟨t, []⟩ := by
  rw [extractWith, hon, split?_of_not_isFenced h]
  rfl

/-- **A text with front matter gives what stands behind it**, and its block is what is read. -/
theorem extractWith_of_isCut (hon : o.parseFrontMatter.truthy = true)
    (h : IsCut t first block closing rest) :
    extractWith read o t = do
      let metadata ← metadataOf (read block.flatten)
      return ⟨rest.flatten, metadata⟩ := by
  rw [extractWith, hon, split?_of_isCut h]
  rfl

/-- What stands behind front matter is shorter than the text. -/
theorem IsCut.rest_ne (h : IsCut t first block closing rest) : rest.flatten ≠ t := by
  intro he
  have hlength := congrArg List.length h.eq_append
  have hfirst : 0 < first.length := by
    rcases h.opens with rfl | rfl <;> decide
  rw [← he] at hlength
  simp only [List.length_append] at hlength
  omega

/-- **Front matter is cut off and read, and no other text is touched.**  A text stands in lines in
one way.  It is left as it is, without a mapping, just if it has no front matter.  If it has, it can
be cut there, and however it is cut, the pieces concatenate to it, the outcome depends on what is
read of the block alone, what stands behind is left to the code point, and the mapping is what the
block is read as, if that is one. -/
theorem extractWith_cut (read : Text → Except Fault Value) (o : MarkdownOptions) (t : Text)
    (hon : o.parseFrontMatter.truthy = true) :
    (∀ lines, t.IsInLines lines ↔ lines = t.lines) ∧
    ((extractWith read o t).result = .ok ⟨t, []⟩ ↔ ¬ IsFenced t) ∧
    (¬ IsFenced t → extractWith read o t = pure ⟨t, []⟩) ∧
    (IsFenced t → ∃ first block closing rest, IsCut t first block closing rest) ∧
    ∀ first block closing rest, IsCut t first block closing rest →
      t = first ++ block.flatten ++ closing ++ rest.flatten ∧
      (∀ read', read' block.flatten = read block.flatten →
        extractWith read' o t = extractWith read o t) ∧
      ((∀ f, read block.flatten ≠ .error (.failed f)) →
        (extractWith read o t).result =
          .ok ⟨rest.flatten, mappingOf (read block.flatten)⟩) := by
  refine ⟨fun _ => Text.isInLines_iff, ⟨?_, ?_⟩, extractWith_of_not_isFenced hon, exists_isCut, ?_⟩
  · intro hleft hfenced
    obtain ⟨first, block, closing, rest, hcut⟩ := exists_isCut hfenced
    rw [extractWith_of_isCut hon hcut, Outcome.result_bind_eq_ok] at hleft
    obtain ⟨metadata, -, hpure⟩ := hleft
    exact hcut.rest_ne (congrArg FrontMatter.content (Except.ok.inj hpure))
  · intro hbare
    rw [extractWith_of_not_isFenced hon hbare]
    rfl
  · intro first block closing rest hcut
    refine ⟨hcut.eq_append, ?_, ?_⟩
    · intro read' hread
      rw [extractWith_of_isCut hon hcut, extractWith_of_isCut hon hcut, hread]
    · intro hread
      rw [extractWith_of_isCut hon hcut, Outcome.result_bind_eq_ok]
      exact ⟨_, metadataOf_result hread, rfl⟩

/-- A fence may end in both of a pair, a line of the block in a separator, and the closing fence may
stand in white space. -/
theorem extractWith_cut_sample :
    (extractWith (fun block => .ok (.dict [(.text block, .null)])) {}
      "---\r\na: 1\u2028 --- \rB").result =
        .ok ⟨"B", [(.text "a: 1\u2028", .null)]⟩ := by
  obtain ⟨-, -, -, -, hcut⟩ :=
    extractWith_cut (fun block => .ok (.dict [(.text block, .null)])) {}
      "---\r\na: 1\u2028 --- \rB" rfl
  refine (hcut "---\r\n" ["a: 1\u2028"] " --- \r" ["B"] ⟨?_, ?_, ?_, ?_⟩).2.2 ?_
  · exact Text.isInLines_iff.mpr (by decide)
  · exact .inr rfl
  · decide
  · decide
  · exact fun f hf => by cases hf

/-! ## Blocks that are not read -/

/-- What extraction fails for is what the block is not read for. -/
theorem extractWith_eq_error_iff (hon : o.parseFrontMatter.truthy = true)
    (h : IsCut t first block closing rest) {f : Failure} :
    (extractWith read o t).result = .error f ↔ read block.flatten = .error (.failed f) := by
  rw [extractWith_of_isCut hon h]
  rcases read block.flatten with (_ | _) | v
  · constructor <;> rintro ⟨⟩
  · constructor
    · rintro ⟨⟩
      rfl
    · rintro ⟨⟩
      rfl
  · constructor
    · intro hfailed
      cases v <;> cases hfailed
    · rintro ⟨⟩

/-- A value that is no mapping is noted by its type and left out. -/
theorem metadataOf_ok {v : Value} (h : ∀ entries, v ≠ .dict entries) :
    metadataOf (.ok v) = ⟨[.frontMatterType v.typeName], .ok []⟩ := by
  cases v with
  | dict entries => exact absurd rfl (h entries)
  | _ => rfl

/-- **Front matter is extracted unless its block is not read** for another reason than being malformed.
Extraction fails just where a text can be cut around such a block, and for that reason.  A text without
front matter is left as it is.  Every other block leaves what stands behind it, with the mapping that it
is; a block that is malformed or no mapping is noted and gives none. -/
theorem extractWith_unless_failed (read : Text → Except Fault Value) (o : MarkdownOptions) (t : Text)
    (hon : o.parseFrontMatter.truthy = true) :
    (∀ f, (extractWith read o t).result = .error f ↔ ∃ first block closing rest,
      IsCut t first block closing rest ∧ read block.flatten = .error (.failed f)) ∧
    (¬ IsFenced t → extractWith read o t = pure ⟨t, []⟩) ∧
    (IsFenced t → ∃ first block closing rest, IsCut t first block closing rest) ∧
    ∀ first block closing rest, IsCut t first block closing rest →
      (∀ entries, read block.flatten = .ok (.dict entries) →
        extractWith read o t = pure ⟨rest.flatten, entries⟩) ∧
      (∀ v, read block.flatten = .ok v → (∀ entries, v ≠ .dict entries) →
        extractWith read o t = ⟨[.frontMatterType v.typeName], .ok ⟨rest.flatten, []⟩⟩) ∧
      (read block.flatten = .error .malformed →
        extractWith read o t = ⟨[.badFrontMatter], .ok ⟨rest.flatten, []⟩⟩) := by
  refine ⟨fun f => ⟨fun hfailed => ?_, ?_⟩, extractWith_of_not_isFenced hon, exists_isCut, ?_⟩
  · by_cases hfenced : IsFenced t
    · obtain ⟨first, block, closing, rest, hcut⟩ := exists_isCut hfenced
      exact ⟨first, block, closing, rest, hcut, (extractWith_eq_error_iff hon hcut).mp hfailed⟩
    · rw [extractWith_of_not_isFenced hon hfenced] at hfailed
      cases hfailed
  · rintro ⟨first, block, closing, rest, hcut, hread⟩
    exact (extractWith_eq_error_iff hon hcut).mpr hread
  · intro first block closing rest hcut
    rw [extractWith_of_isCut hon hcut]
    refine ⟨fun entries hread => ?_, fun v hread hv => ?_, fun hread => ?_⟩
    · rw [hread]
      rfl
    · rw [hread, metadataOf_ok hv]
      rfl
    · rw [hread]
      rfl

/-- Whether a block is malformed. -/
def isMalformed : Except Fault Value → Bool
  | .error .malformed => true
  | _ => false

/-- A bracket that is not closed in YAML is noted and gives no mapping. -/
theorem extractWith_unless_failed_sample :
    extractWith Yaml.read {} "---\ntitle: [unclosed\n---\nBody"
      = ⟨[.badFrontMatter], .ok ⟨"Body", []⟩⟩ := by
  have hcut : IsCut "---\ntitle: [unclosed\n---\nBody" "---\n" ["title: [unclosed\n"] "---\n"
      ["Body"] := ⟨Text.isInLines_iff.mpr (by decide), .inl rfl, by decide, by decide⟩
  have hread : isMalformed (Yaml.read "title: [unclosed\n") = true := by decide +kernel
  rw [isMalformed.eq_def] at hread
  split at hread
  · next heq =>
    obtain ⟨-, -, -, hextract⟩ :=
      extractWith_unless_failed Yaml.read {} "---\ntitle: [unclosed\n---\nBody" rfl
    exact (hextract _ _ _ _ hcut).2.2 heq
  · cases hread

/-- Whether a block has a month that is none. -/
def isMonthless : Except Fault Value → Bool
  | .error (.failed (.invalid .monthRange)) => true
  | _ => false

/-- A date in no month fails, although the block is YAML and the text behind it is none of it. -/
theorem extractWith_monthless :
    (extractWith Yaml.read {} "---\na: 2024-13-45\n---\nB").result
      = .error (.invalid .monthRange) := by
  have hcut : IsCut "---\na: 2024-13-45\n---\nB" "---\n" ["a: 2024-13-45\n"] "---\n" ["B"] :=
    ⟨Text.isInLines_iff.mpr (by decide), .inl rfl, by decide, by decide⟩
  have hread : isMonthless (Yaml.read "a: 2024-13-45\n") = true := by decide +kernel
  rw [isMonthless.eq_def] at hread
  split at hread
  · next heq => exact (extractWith_eq_error_iff rfl hcut).mpr heq
  · cases hread

end RichText.FrontMatter
