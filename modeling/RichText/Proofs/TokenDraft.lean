import RichText.Proofs.Ascii
import RichText.Proofs.Draft
import RichText.Proofs.Nesting
import RichText.Proofs.TokenShape

/-!
# Proofs/TokenDraft — whatever attributes tokens have, their trees can be rendered

    attributes ──role──▸ a level from one to six, an address ──▸ a draft that lacks nothing

Tokens may hold anything where attributes and other tokens belong: what is no mapping has none, what
is no list has none in it, and a level that is none counts as one.  Only types, texts and the
addresses of links and images have to be what they are called (`Token.IsPresentable`).
-/

namespace RichText

namespace Token

variable {entries : List (Value × Value)}

/-- **A token that can be presented**: its type and what it says are texts, and a link or an image
leads to an address. -/
structure IsPresentable (entries : List (Value × Value)) : Prop where
  type : (fieldOr "type" (.text []) entries).IsText
  raw : (fieldOr "raw" (.text []) entries).IsText
  url (h : typeName entries = "link" ∨ typeName entries = "image") :
    ∀ v ∈ Value.field? "url" (attributes entries), v.IsAddress

theorem IsPresentable.isReadable (h : IsPresentable entries) : IsReadable entries := by
  obtain ⟨t, ht⟩ := h.type
  exact ⟨by rw [ht]; rfl, fun _ => h.raw⟩

/-- A link or an image without a URL leads to the empty address. -/
theorem IsPresentable.isAddress_url (h : IsPresentable entries)
    (hname : typeName entries = "link" ∨ typeName entries = "image") :
    (fieldOr "url" (.text []) (attributes entries)).IsAddress := by
  rw [fieldOr]
  cases hv : Value.field? "url" (attributes entries) with
  | none => exact ⟨[], rfl, rfl⟩
  | some v => exact h.url hname v hv

theorem isFinished_textNode {content : Value} (h : content.IsText) : (textNode content).IsFinished := by
  obtain ⟨t, rfl⟩ := h
  exact Node.isFinished_leaf (.text (.inr ⟨t, rfl⟩)) rfl

/-- A list of items lacks nothing, be it ordered or not. -/
theorem isFinished_listNode (attributes : List (Value × Value)) {items : List Node}
    (h : ∀ n ∈ items, n.IsFinished) : (listNode attributes items).IsFinished := by
  rw [listNode]
  split <;> exact Node.isFinished_branch trivial rfl h

theorem IsPresentable.isFinished_rawChildren (h : IsPresentable entries) :
    ∀ n ∈ rawChildren entries, n.IsFinished := by
  rcases rawChildren_cases entries with hnone | hone
  · rw [hnone]
    exact List.forall_mem_nil _
  · rw [hone]
    exact List.forall_mem_singleton.mpr (isFinished_textNode h.raw)

end Token

namespace Node

open Token

/-- **Every role gives drafts that lack nothing**, of such drafts. -/
theorem isCarried_isFinished :
    IsCarried IsPresentable fun _ nodes => ∀ n ∈ nodes, n.IsFinished where
  nil := List.forall_mem_nil _
  cons hfirst hothers := List.forall_mem_append.mpr ⟨hfirst, hothers⟩
  token := by
    intro entries r inner h hr ⟨t, ht⟩ hinner
    have hraw := isFinished_textNode h.raw
    have hplain {b : Branch} (hb : b.IsDraft) (hgap : b.missing? = none) :
        ∀ n ∈ [plain b inner], n.IsFinished :=
      List.forall_mem_singleton.mpr (isFinished_branch hb hgap hinner)
    generalize hname : typeName entries = name at hr
    cases hr with
    | blankLine => exact ⟨_, rfl, List.forall_mem_nil _⟩
    | blockText => exact ⟨_, rfl, hinner⟩
    | heading =>
      obtain ⟨i, hi, hrange⟩ := isStorable_heading (attributes entries)
      exact ⟨_, rfl, hplain (.inr ⟨i, hi, hrange⟩) (Gap.ofValue?_of_isNull (Value.isNull_of_int? hi) _ _)⟩
    | list => exact ⟨_, rfl, List.forall_mem_singleton.mpr (isFinished_listNode _ hinner)⟩
    | text => exact ⟨_, rfl, List.forall_mem_singleton.mpr hraw⟩
    | softbreak => exact ⟨_, rfl, List.forall_mem_singleton.mpr (isFinished_textNode ⟨_, rfl⟩)⟩
    | codespan =>
      exact ⟨_, rfl, List.forall_mem_singleton.mpr
        (isFinished_branch trivial rfl (List.forall_mem_singleton.mpr hraw))⟩
    | link =>
      have hurl := h.isAddress_url (.inl hname)
      exact ⟨_, rfl, hplain (.inr hurl) (Gap.ofValue?_of_isNull hurl.isNull _ _)⟩
    | image =>
      have hurl := h.isAddress_url (.inr hname)
      refine ⟨_, by rw [Role.nodes, imageNode, ht]; rfl, ?_⟩
      exact List.forall_mem_singleton.mpr (isFinished_leaf (.image (.inr hurl) (.inr ⟨t, rfl⟩))
        (Gap.ofValue?_of_isNull hurl.isNull _ _))
    | other type _ =>
      refine ⟨_, rfl, List.forall_mem_singleton.mpr (isFinished_branch trivial rfl ?_)⟩
      split
      · exact hinner
      · exact h.isFinished_rawChildren
    | _ => exact ⟨_, rfl, hplain trivial rfl⟩

end Node

namespace Conversion

open Token

/-- **Tokens have nodes, and a document of them has an RTF**, whatever their attributes are: no
heading is out of the six levels, nothing that a node needs is missing, and what is written is of
ASCII and one group.  An interpreter's limit on nested calls is left out. -/
theorem exists_render_ofTokens {tokens : List Value} (h : ∀ v ∈ tokens, HasShape IsPresentable v) :
    ∃ nodes, (Node.ofTokens tokens).result = .ok nodes
      ∧ (∀ m ∈ Node.allPostOrder nodes, m.gap? = none ∧ ∀ level children metadata,
          m = .branch (.heading level) children metadata → ∃ i, level.int? = some i ∧ 1 ≤ i ∧ i ≤ 6)
      ∧ ∀ fs metadata, ∃ t, (render fs (.branch .document nodes metadata) none []).result
          = .ok (.text t) ∧ (∀ c ∈ t, c.code < 0x80) ∧ Rtf.IsGroup t := by
  obtain ⟨nodes, hnodes, hfinished⟩ :=
    Node.isCarried_isFinished.exists_ofTokens (fun _ h => h.isReadable) h
  refine ⟨nodes, hnodes, fun m hm => ?_, fun fs metadata => ?_⟩
  · obtain ⟨n, hn, hm⟩ := Node.mem_allPostOrder.mp hm
    refine ⟨(hfinished n hn).gap? m hm, ?_⟩
    rintro level children metadata rfl
    exact (hfinished n hn).level hm
  · have hroot : (Node.branch .document nodes metadata).IsFinished :=
      Node.isFinished_branch trivial rfl hfinished
    obtain ⟨t, ht⟩ := exists_render_of_isFinished hroot fs
    obtain ⟨context, hr⟩ := exists_of_render_eq_ok ht
    exact ⟨t, ht, fun c hc => of_decide_eq_true (isKept_isAscii.render _ hr c hc),
      Node.isGroup_of_render rfl hr⟩

/-- A heading of level 99 that holds a number where its children should be, and a link without a
mapping for its attributes that holds a text. -/
theorem exists_render_ofTokens_sample :
    let tokens : List Value := [
      .dict [entry "type" (.text "heading"), entry "attrs" (.dict [entry "level" (.int 99)]),
        entry "children" (.int 5)],
      .dict [entry "type" (.text "link"), entry "attrs" (.text "x"),
        entry "children" (.list [.dict [entry "type" (.text "text"), entry "raw" (.text "a")]])]]
    ∃ nodes, (Node.ofTokens tokens).result = .ok nodes
      ∧ ∃ t, (render ⟨.directory [], []⟩ (.branch .document nodes .null) none []).result
        = .ok (.text t) ∧ Rtf.IsGroup t := by
  intro tokens
  have hshape : ∀ v ∈ tokens, HasShape IsPresentable v := by
    refine List.forall_mem_cons.mpr ⟨?_, List.forall_mem_singleton.mpr ?_⟩
    · exact .mk ⟨⟨_, rfl⟩, ⟨_, rfl⟩, fun h => absurd h (by decide)⟩ (List.forall_mem_nil _)
    · refine .mk ⟨⟨_, rfl⟩, ⟨_, rfl⟩, fun _ _ hv => nomatch hv⟩ (List.forall_mem_singleton.mpr ?_)
      exact .mk ⟨⟨_, rfl⟩, ⟨_, rfl⟩, fun h => absurd h (by decide)⟩ (List.forall_mem_nil _)
  obtain ⟨nodes, hnodes, -, hrender⟩ := exists_render_ofTokens hshape
  obtain ⟨t, ht, -, hgroup⟩ := hrender ⟨.directory [], []⟩ .null
  exact ⟨nodes, hnodes, t, ht, hgroup⟩

end Conversion

end RichText
