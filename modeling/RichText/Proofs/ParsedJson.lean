import RichText.Proofs.Display
import RichText.Proofs.Reload
import RichText.Proofs.TokenTree
import RichText.Readers

/-!
# Proofs/ParsedJson — the JSON documents of parsed Markdown

    text ──parse──▸ children, front matter ──toJson──▸ document ──ofJson──▸ children', front matter'

Where the tokens that a reader gives are ones that can be stored (`Readers.GivesTokens`), so are the
children of a parsed document.  Its front matter is whatever a reader gives, which may have values that
JSON has not; it alone decides whether there is a document (`Conversion.parsed_json`).  What is not shown
may change on the way, but nothing asks for it when the tree is rendered.
-/

namespace RichText

/-! ## Parsed documents -/

/-- What is found where no block stands in front of a text is nothing, and JSON has that. -/
theorem FrontMatter.hasJson_of_split? {read : Text → Except Fault Value} {o : MarkdownOptions}
    {t : Text} {found : FrontMatter} (hsplit : split? t = none)
    (hfound : (extractWith read o t).result = .ok found) :
    (Value.dict found.metadata).HasJson := by
  have hempty : found.metadata = [] := by
    rw [extractWith, hsplit] at hfound
    split at hfound
    · cases hfound
      rfl
    · cases hfound
      rfl
  rw [hempty]
  exact .dict (List.forall_mem_nil _) (List.forall_mem_nil _)

/-- **A reader gives tokens for a text**, if it gives a list: every token is a mapping whose type, text
and URL are texts where it has them, and whose attributes have a JSON document; so are the tokens in it. -/
def Readers.GivesTokens (readers : Readers) (extensions : List Text) (t : Text) : Prop :=
  ∀ tokens, readers.tokens extensions t = .ok (.list tokens) → ∀ v ∈ tokens, Token.IsToken v

namespace Conversion

section Parsed

variable {readers : Readers} {fs : FileSystem} {source : Source} {options : Option Options}
  {doc : Node}

theorem isStorable_of_nodesOf {extensions : List Text} {t : Text} {v : Value}
    {children : List Node} (htokens : readers.GivesTokens extensions t)
    (hv : readers.tokens extensions t = .ok v) (h : (nodesOf v).result = .ok children) :
    ∀ c ∈ children, c.IsStorable := by
  rw [nodesOf.eq_def] at h
  split at h
  · exact Node.isStorable_of_ofTokens (htokens _ hv) h
  · cases h
    exact List.forall_mem_nil _

/-- What is parsed is a document with the front matter of the text as its metadata, and nodes that can be
stored if its tokens are tokens. -/
theorem exists_document_of_parse (h : (parse readers fs source options).result = .ok doc) :
    ∃ o t found children, Options.forParser options = .ok o ∧ source.read fs = .ok t
      ∧ (FrontMatter.extractWith readers.block o t).result = .ok found
      ∧ doc = .branch .document children (.dict found.metadata)
      ∧ (readers.GivesTokens o.extensions found.content → ∀ c ∈ children, c.IsStorable) := by
  obtain ⟨o, ho, h⟩ := Outcome.result_bind_eq_ok.mp h
  obtain ⟨t, ht, h⟩ := Outcome.result_bind_eq_ok.mp h
  obtain ⟨found, hfound, h⟩ := Outcome.result_bind_eq_ok.mp h
  obtain ⟨v, hv, h⟩ := Outcome.result_bind_eq_ok.mp h
  obtain ⟨children, hchildren, h⟩ := Outcome.result_bind_eq_ok.mp h
  cases h
  exact ⟨o, t, found, children, ho, ht, hfound, rfl,
    fun htokens => isStorable_of_nodesOf htokens hv hchildren⟩

/-- **A parsed document is handed over as JSON, if JSON has its front matter**, as it has where there
is none.  The text may be read by whatever readers, if the one of Markdown gives tokens for it.  Then the
document has a JSON document for every indent that can be counted, from which a tree is read back, checked
or not, strictly or not, without a notice; both trees are rendered alike with whatever options, and without
any they give a text if the addresses in them are made of characters.  If JSON has not, it is the front
matter that the document is refused for. -/
theorem parsed_json (h : (parse readers fs source options).result = .ok doc) {indent : Value}
    (hindent : Json.IsIndent indent) :
    ∃ o t found layout, Options.forParser options = .ok o ∧ source.read fs = .ok t
      ∧ (FrontMatter.extractWith readers.block o t).result = .ok found
      ∧ Json.indentOf indent = .ok layout
      ∧ (FrontMatter.split? t = none → (Value.dict found.metadata).HasJson)
      ∧ (readers.GivesTokens o.extensions found.content →
        ((Value.dict found.metadata).HasJson → ∃ document restored,
          doc.toJson layout = .ok document
            ∧ (∀ validate strict, Node.ofJson validate strict document = pure restored)
            ∧ (∀ fs options given,
              render fs restored options given = render fs doc options given)
            ∧ (doc.IsDraft → ∀ fs, ∃ rtf, (render fs doc none []).result = .ok (.text rtf)))
        ∧ (¬ (Value.dict found.metadata).HasJson → ∃ why,
          Json.writeAt layout 1 (.dict found.metadata) = .error why
            ∧ doc.toJson layout = .error why.toFailure)) := by
  obtain ⟨layout, hlayout, hl⟩ := Json.exists_indentOf_eq hindent
  obtain ⟨o, t, found, children, ho, ht, hfound, rfl, hstorable⟩ := exists_document_of_parse h
  refine ⟨o, t, found, layout, ho, ht, hfound, hlayout,
    fun hsplit => FrontMatter.hasJson_of_split? hsplit hfound, fun htokens => ?_⟩
  have hchildren := hstorable htokens
  constructor
  · intro hmetadata
    have hdoc : (Node.branch .document children (.dict found.metadata)).IsStorable :=
      .branch trivial hchildren ⟨_, rfl, hmetadata⟩
    obtain ⟨document, restored, hdocument, hsame, hread⟩ := hdoc.exists_toJson hl
    exact ⟨document, restored, hdocument, hread, render_of_displayed hsame,
      fun hdraft => exists_render_of_isFinished ⟨hdraft, hdoc.isLoaded.gap?⟩⟩
  · intro hmetadata
    cases hwrite : Json.writeAt layout 1 (.dict found.metadata) with
    | ok document => exact absurd (Json.hasJson_of_writeAt hwrite) hmetadata
    | error why => exact ⟨why, rfl, Node.toJson_document_eq_error hl hchildren hwrite⟩

end Parsed

section Greeting

open Markdown

/-- The token of a paragraph of one word. -/
def greeting : Value := parentToken "paragraph" [rawToken "text" "Hi"]

theorem tokens_greeting :
    tokens ({} : MarkdownOptions).extensions "Hi\n" = .ok (.list [greeting]) := rfl

theorem isToken_greeting : Token.IsToken greeting := by
  have hword : Token.IsToken (rawToken "text" "Hi") :=
    .mk ⟨⟨_, rfl⟩, ⟨_, rfl⟩, Token.areAttributes_nil⟩ (List.forall_mem_nil _)
  exact .mk ⟨⟨_, rfl⟩, ⟨_, rfl⟩, Token.areAttributes_nil⟩ (List.forall_mem_singleton.mpr hword)

theorem ofTokens_greeting :
    (Node.ofTokens [greeting]).result = .ok [Node.plain .paragraph [Token.textNode "Hi"]] := by
  have hinner : (Node.ofTokens [rawToken "text" "Hi"]).result = .ok [Token.textNode "Hi"] := by
    rw [Node.ofTokens, Node.ofTokens, rawToken, token, Node.ofToken]
    rfl
  have hparagraph : (Node.ofToken greeting).result
      = .ok [Node.plain .paragraph [Token.textNode "Hi"]] := by
    rw [greeting, parentToken, token, Node.ofToken]
    refine Outcome.result_bind_eq_ok.mpr ⟨.branch .paragraph, rfl, ?_⟩
    exact Outcome.result_bind_eq_ok.mpr ⟨_, by rw [Node.ofChildTokens_eq]; exact hinner, rfl⟩
  rw [Node.ofTokens, Node.ofTokens]
  exact Outcome.result_bind_eq_ok.mpr ⟨_, hparagraph, rfl⟩

theorem givesTokens_greeting :
    Readers.standard.GivesTokens ({} : MarkdownOptions).extensions "Hi\n" := by
  intro found hfound
  cases tokens_greeting.symm.trans hfound
  exact List.forall_mem_singleton.mpr isToken_greeting

/-- The paragraph behind a block. -/
def greeted (metadata : List (Value × Value)) : Node :=
  .branch .document [Node.plain .paragraph [Token.textNode "Hi"]] (.dict metadata)

theorem isDraft_greeted (metadata : List (Value × Value)) : (greeted metadata).IsDraft := by
  have hword : (Token.textNode "Hi").IsDraft := .text (.inr ⟨_, rfl⟩)
  have hparagraph : (Node.plain .paragraph [Token.textNode "Hi"]).IsDraft :=
    .branch trivial (List.forall_mem_singleton.mpr hword)
  exact .branch trivial (List.forall_mem_singleton.mpr hparagraph)

section Block

variable {t block : Text} {metadata : List (Value × Value)}
  (hsplit : FrontMatter.split? t = some (block, ("Hi\n" : Text)))
  (hread : Yaml.read block = .ok (.dict metadata))

include hsplit hread

theorem extractWith_greeting :
    (FrontMatter.extractWith Yaml.read {} t).result = .ok ⟨"Hi\n", metadata⟩ := by
  rw [FrontMatter.extractWith, hsplit]
  dsimp only
  rw [hread]
  rfl

theorem parse_greeting (fs : FileSystem) :
    (parse .standard fs (.text t) none).result = .ok (greeted metadata) := by
  have hdoc : (parseText .standard {} t).result = .ok (greeted metadata) :=
    Outcome.result_bind_eq_ok.mpr ⟨_, extractWith_greeting hsplit hread,
      Outcome.result_bind_eq_ok.mpr ⟨_, tokens_greeting,
        Outcome.result_bind_eq_ok.mpr ⟨_, ofTokens_greeting, rfl⟩⟩⟩
  exact Outcome.result_bind_eq_ok.mpr ⟨{}, rfl, Outcome.result_bind_eq_ok.mpr ⟨t, rfl, hdoc⟩⟩

end Block

/-- Whether what is read is a mapping of a name to a text. -/
def isTitled : Except Fault Value → Bool
  | .ok (.dict [(.text _, .text _)]) => true
  | _ => false

/-- Whether what is read is a mapping of a name to a date. -/
def isDated : Except Fault Value → Bool
  | .ok (.dict [(.text _, .date _)]) => true
  | _ => false

/-- A document with a title, which JSON has. -/
theorem parsed_json_sample :
    let fs : FileSystem := ⟨.directory [], []⟩
    ∃ doc document restored t,
      (parse .standard fs (.text "---\ntitle: a\n---\nHi\n") none).result = .ok doc
        ∧ doc.toJson none = .ok document ∧ Node.ofJson true true document = pure restored
        ∧ (render fs doc none []).result = .ok (.text t)
        ∧ (render fs restored none []).result = .ok (.text t) := by
  intro fs
  have hsplit : FrontMatter.split? "---\ntitle: a\n---\nHi\n"
      = some (("title: a\n" : Text), ("Hi\n" : Text)) := by decide +kernel
  have hread : isTitled (Yaml.read "title: a\n") = true := by decide +kernel
  rw [isTitled.eq_def] at hread
  split at hread
  · next name title heq =>
    have hdoc := parse_greeting hsplit heq fs
    have hmetadata : (Value.dict [(.text name, .text title)]).HasJson :=
      .dict (List.forall_mem_singleton.mpr (.text name))
        (List.forall_mem_singleton.mpr (.scalar (.text title)))
    obtain ⟨o, found, _, _, ho, hfound, hextract, hlayout, -, hstored⟩ :=
      parsed_json hdoc (.inl rfl)
    cases ho
    cases hfound
    cases (extractWith_greeting hsplit heq).symm.trans hextract
    cases hlayout
    obtain ⟨document, restored, hdocument, hrestored, hsame, htext⟩ :=
      (hstored givesTokens_greeting).1 hmetadata
    obtain ⟨t, ht⟩ := htext (isDraft_greeted _) fs
    exact ⟨_, document, restored, t, hdoc, hdocument, hrestored true true, ht,
      by rw [hsame]; exact ht⟩
  · cases hread

/-- A document with a date, which JSON has not, is parsed and cannot be written. -/
theorem toJson_dated :
    ∃ doc, (parse .standard ⟨.directory [], []⟩ (.text "---\ndate: 2024-01-02\n---\nHi\n")
        none).result = .ok doc
      ∧ doc.toJson none = .error .misuse := by
  have hsplit : FrontMatter.split? "---\ndate: 2024-01-02\n---\nHi\n"
      = some (("date: 2024-01-02\n" : Text), ("Hi\n" : Text)) := by decide +kernel
  have hread : isDated (Yaml.read "date: 2024-01-02\n") = true := by decide +kernel
  rw [isDated.eq_def] at hread
  split at hread
  · next name date heq =>
    have hgreeting := Node.isStorable_of_ofTokens
      (List.forall_mem_singleton.mpr isToken_greeting) ofTokens_greeting
    have hrefused : Json.writeAt none 1 (.dict [(.text name, .date date)]) = .error .noForm := rfl
    have hl : Json.Indent.IsBlank none := by rintro _ ⟨⟩
    exact ⟨_, parse_greeting hsplit heq ⟨.directory [], []⟩,
      Node.toJson_document_eq_error hl hgreeting hrefused⟩
  · cases hread

end Greeting

end Conversion

end RichText
