import RichText.Proofs.StoredTree
import RichText.Token.Tree

/-!
# Proofs/TokenTree — the trees of tokens can be stored

    token ──role──▸ what becomes of it ──children──▸ nodes

A token has a type that is a text, holds a text if anything, and has attributes with a JSON document, a
URL among them being a text (`IsToken`).  Whatever its type, the nodes made of it can be stored
(`Node.isStorable_of_ofTokens`).
-/

namespace RichText

/-- No data at all is a mapping with a document. -/
theorem Value.isJsonMapping_nil : (Value.dict []).IsJsonMapping :=
  ⟨[], rfl, .dict (List.forall_mem_nil _) (List.forall_mem_nil _)⟩

namespace Node

theorem IsStorable.plain {b : Branch} {children : List Node} (hb : b.IsStorable)
    (h : ∀ c ∈ children, c.IsStorable) : (plain b children).IsStorable :=
  .branch hb h Value.isJsonMapping_nil

end Node

namespace Token

theorem isStorable_textNode {content : Value} (h : content.IsText) :
    (textNode content).IsStorable :=
  .text h Value.isJsonMapping_nil

/-! ## Attributes -/

/-- What is found under a name is one of the entries. -/
theorem exists_mem_of_field? {name : Text} {entries : List (Value × Value)} {v : Value}
    (h : Value.field? name entries = some v) : ∃ e ∈ entries, e.2 = v := by
  fun_induction Value.field? name entries with
  | case1 => cases h
  | case2 w rest => exact ⟨_, List.mem_cons_self, Option.some.inj h⟩
  | _ =>
    rename_i ih
    obtain ⟨e, he, hv⟩ := ih h
    exact ⟨e, List.mem_cons_of_mem _ he, hv⟩

/-- **Attributes**: a mapping with a JSON document, with a text for a URL. -/
structure AreAttributes (attributes : List (Value × Value)) : Prop where
  hasJson : (Value.dict attributes).HasJson
  url : ∀ v ∈ Value.field? "url" attributes, v.IsText

theorem areAttributes_nil : AreAttributes [] :=
  ⟨.dict (List.forall_mem_nil _) (List.forall_mem_nil _), fun _ h => nomatch h⟩

section Attributes

variable {attributes : List (Value × Value)} (h : AreAttributes attributes)

include h

/-- An attribute has a document, if its default has. -/
theorem AreAttributes.hasJson_fieldOr (name : Text) {default : Value} (hdefault : default.HasJson) :
    (fieldOr name default attributes).HasJson := by
  rw [fieldOr]
  cases hv : Value.field? name attributes with
  | none => exact hdefault
  | some v =>
    obtain ⟨e, he, rfl⟩ := exists_mem_of_field? hv
    cases h.hasJson with
    | scalar h => cases h
    | dict _ hvalues => exact hvalues e he

theorem AreAttributes.isText_url : (fieldOr "url" (.text []) attributes).IsText := by
  rw [fieldOr]
  cases hv : Value.field? "url" attributes with
  | none => exact ⟨[], rfl⟩
  | some v => exact h.url v hv

theorem AreAttributes.isStorable_link :
    (Branch.link (fieldOr "url" (.text []) attributes)
      (fieldOr "title" .null attributes)).IsStorable :=
  ⟨h.isText_url, h.hasJson_fieldOr "title" (.scalar .null)⟩

theorem AreAttributes.isStorable_listNode {items : List Node}
    (hitems : ∀ n ∈ items, n.IsStorable) : (listNode attributes items).IsStorable := by
  rw [listNode]
  split
  · have hone : (Value.int 1).IsJsonScalar := .int (Text.isShort_of_natAbs_lt_ten (by decide))
    have hstart := h.hasJson_fieldOr "start" (.scalar hone)
    have hmapping : (Value.dict [entry "start" (fieldOr "start" (.int 1) attributes)]).IsJsonMapping :=
      ⟨_, rfl, .dict (List.forall_mem_singleton.mpr (.text "start"))
        (List.forall_mem_singleton.mpr hstart)⟩
    exact .plain ⟨⟨_, rfl⟩, hmapping⟩ hitems
  · exact .plain trivial hitems

theorem AreAttributes.isStorable_imageNode {children : Value} {n : Node}
    (hn : imageNode attributes children = .ok n) : n.IsStorable := by
  obtain ⟨alt, -, hn⟩ := except_bind_eq_ok.mp hn
  cases hn
  exact .image h.isText_url ⟨alt, rfl⟩ (h.hasJson_fieldOr "title" (.scalar .null)) .null .null
    Value.isJsonMapping_nil

end Attributes

/-- The level of a heading is one to six, whatever the attributes are. -/
theorem isStorable_heading (attributes : List (Value × Value)) :
    (Branch.heading (headingLevel attributes)).IsStorable := by
  show ∃ i, (headingLevel attributes).int? = some i ∧ 1 ≤ i ∧ i ≤ 6
  rw [headingLevel]
  split
  · next i hi =>
    split
    · next hlevel =>
      simp only [Bool.and_eq_true, decide_eq_true_eq] at hlevel
      exact ⟨i, hi, hlevel⟩
    · exact ⟨1, rfl, by decide, by decide⟩
  · exact ⟨1, rfl, by decide, by decide⟩

/-! ## Tokens -/

/-- The tokens in a token. -/
def children (entries : List (Value × Value)) : List Value :=
  match Value.field? "children" entries with
  | some (.list items) => items
  | _ => []

/-- What a token has besides the tokens in it. -/
structure IsSound (entries : List (Value × Value)) : Prop where
  type : (fieldOr "type" (.text []) entries).IsText
  raw : (fieldOr "raw" (.text []) entries).IsText
  attributes : AreAttributes (attributes entries)

/-- **A token**, with tokens in it. -/
inductive IsToken : Value → Prop
  | mk {entries : List (Value × Value)} (h : IsSound entries)
    (hchildren : ∀ v ∈ children entries, IsToken v) : IsToken (.dict entries)

/-! ## What becomes of a token -/

/-- What becomes of a token can be stored. -/
def Role.IsStorable : Role → Prop
  | nothing => True
  | leaf n => n.IsStorable
  | image attributes _ => AreAttributes attributes
  | branch b => b.IsStorable
  | list attributes => AreAttributes attributes
  | inlined => True
  | other type => type.IsText

/-- What becomes of a token of a type, if anything is known about it, can be stored. -/
def Role.AreStorable (found : Option Role) : Prop := ∀ r, found = some r → r.IsStorable

theorem Role.areStorable_none : AreStorable none := fun _ h => nomatch h

theorem Role.IsStorable.some {r : Role} (h : r.IsStorable) : AreStorable (some r) := by
  rintro _ ⟨⟩
  exact h

/-- A token without tokens in it gives no text, or the one it holds. -/
theorem rawChildren_cases (entries : List (Value × Value)) :
    rawChildren entries = []
      ∨ rawChildren entries = [textNode (fieldOr "raw" (.text []) entries)] := by
  rw [rawChildren, fieldOr]
  cases Value.field? "raw" entries with
  | none => exact Or.inl rfl
  | some raw =>
    cases ht : raw.truthy with
    | false => exact Or.inl (by simp [ht])
    | true => exact Or.inr (by simp [ht])

section Sound

variable {entries : List (Value × Value)} (h : IsSound entries)

include h

open Role in
theorem IsSound.areStorable_roleOfName? (name : Text) :
    AreStorable (roleOfName? name entries) := by
  have hraw := isStorable_textNode h.raw
  have hcode :
      (Node.plain .inlineCode [textNode (fieldOr "raw" (.text []) entries)]).IsStorable :=
    .plain trivial (List.forall_mem_singleton.mpr hraw)
  have hbreak : (textNode (.text " ")).IsStorable := isStorable_textNode ⟨_, rfl⟩
  rw [roleOfName?]
  -- The types are told apart by their names, one after the other.
  repeat' refine iteInduction (motive := AreStorable) (fun _ => ?_) fun _ => ?_
  all_goals first
    | exact areStorable_none
    | exact IsStorable.some (r := .leaf _) hraw
    | exact IsStorable.some (r := .leaf _) hcode
    | exact IsStorable.some (r := .leaf _) hbreak
    | exact IsStorable.some (r := .branch _) h.attributes.isStorable_link
    | exact IsStorable.some (r := .branch _) (isStorable_heading _)
    | exact IsStorable.some (r := .branch _) trivial
    | exact IsStorable.some (r := .image _ _) h.attributes
    | exact IsStorable.some (r := .list _) h.attributes
    | exact IsStorable.some trivial

theorem IsSound.isStorable_role {r : Role} (hr : role entries = .ok r) : r.IsStorable := by
  rw [role] at hr
  split at hr
  · cases hr
  cases hr
  obtain ⟨t, ht⟩ := h.type
  rw [ht, Value.text?, Option.bind_some]
  cases hname : roleOfName? t entries with
  | none => exact ⟨t, rfl⟩
  | some r => exact h.areStorable_roleOfName? t r hname

theorem IsSound.isStorable_rawChildren : ∀ n ∈ rawChildren entries, n.IsStorable := by
  rcases rawChildren_cases entries with hnone | hone
  · rw [hnone]
    exact List.forall_mem_nil _
  · rw [hone]
    exact List.forall_mem_singleton.mpr (isStorable_textNode h.raw)

theorem IsSound.isStorable_elementNode {type : Value} {children : List Node} (htype : type.IsText)
    (hchildren : ∀ n ∈ children, n.IsStorable) :
    (elementNode type entries children).IsStorable :=
  .plain ⟨htype, _, rfl, h.attributes.hasJson⟩ hchildren

end Sound

/-! ## The tokens in a token -/

theorem children_of_list {entries : List (Value × Value)} {items : List Value}
    (h : Value.field? "children" entries = some (.list items)) : children entries = items := by
  simp only [children, h]

theorem children_of_no_list {entries : List (Value × Value)}
    (h : ∀ items, Value.field? "children" entries = some (.list items) → False) :
    children entries = [] := by
  rw [children.eq_def]
  split
  · next items hitems => exact (h items hitems).elim
  · rfl

end Token

namespace Node

open Token

/-- The nodes of the tokens in a token. -/
theorem ofChildTokens_eq (entries : List (Value × Value)) :
    ofChildTokens entries = ofTokens (Token.children entries) := by
  rw [ofChildTokens.eq_def]
  split
  · next hitems => rw [children_of_list hitems]
  · next hnone => rw [children_of_no_list hnone, ofTokens]

/-- **The nodes of a token**, if those of the tokens in it can be stored. -/
theorem isStorable_ofToken {entries : List (Value × Value)} (h : IsSound entries)
    (hchildren : ∀ nodes, (ofChildTokens entries).result = .ok nodes → ∀ n ∈ nodes, n.IsStorable)
    {nodes : List Node} (hnodes : (ofToken (.dict entries)).result = .ok nodes) :
    ∀ n ∈ nodes, n.IsStorable := by
  rw [ofToken] at hnodes
  obtain ⟨r, hr, hnodes⟩ := Outcome.result_bind_eq_ok.mp hnodes
  have hrole := h.isStorable_role hr
  cases r with
  | nothing =>
    cases hnodes
    exact List.forall_mem_nil _
  | leaf n =>
    cases hnodes
    exact List.forall_mem_singleton.mpr hrole
  | image attributes items =>
    obtain ⟨n, hn, hnodes⟩ := Outcome.result_bind_eq_ok.mp hnodes
    cases hnodes
    exact List.forall_mem_singleton.mpr (hrole.isStorable_imageNode hn)
  | branch b =>
    obtain ⟨inner, hinner, hnodes⟩ := Outcome.result_bind_eq_ok.mp hnodes
    cases hnodes
    exact List.forall_mem_singleton.mpr (.plain hrole (hchildren inner hinner))
  | list attributes =>
    obtain ⟨inner, hinner, hnodes⟩ := Outcome.result_bind_eq_ok.mp hnodes
    cases hnodes
    exact List.forall_mem_singleton.mpr (hrole.isStorable_listNode (hchildren inner hinner))
  | inlined => exact hchildren nodes hnodes
  | other type =>
    have helement : ∀ inner : List Node, (∀ n ∈ inner, n.IsStorable) →
        ∀ n ∈ [elementNode type entries inner], n.IsStorable := fun inner hinner =>
      List.forall_mem_singleton.mpr (h.isStorable_elementNode hrole hinner)
    dsimp only at hnodes
    split at hnodes
    · obtain ⟨inner, hinner, hnodes⟩ := Outcome.result_bind_eq_ok.mp hnodes
      cases hnodes
      exact helement inner (hchildren inner hinner)
    · cases hnodes
      exact helement _ h.isStorable_rawChildren

/-- What holds of the nodes of every token holds of those of a list of them. -/
theorem forall_mem_ofTokens {P : Node → Prop} {tokens : List Value}
    (h : ∀ v ∈ tokens, ∀ nodes, (ofToken v).result = .ok nodes → ∀ n ∈ nodes, P n)
    {nodes : List Node} (hnodes : (ofTokens tokens).result = .ok nodes) : ∀ n ∈ nodes, P n := by
  induction tokens generalizing nodes with
  | nil =>
    rw [ofTokens] at hnodes
    cases hnodes
    exact List.forall_mem_nil _
  | cons v rest ih =>
    obtain ⟨hv, hrest⟩ := List.forall_mem_cons.mp h
    rw [ofTokens] at hnodes
    obtain ⟨first, hfirst, hnodes⟩ := Outcome.result_bind_eq_ok.mp hnodes
    obtain ⟨others, hothers, hnodes⟩ := Outcome.result_bind_eq_ok.mp hnodes
    cases hnodes
    exact List.forall_mem_append.mpr ⟨hv first hfirst, ih hrest hothers⟩

/-- **The nodes of tokens can be stored.** -/
theorem isStorable_of_ofTokens {tokens : List Value} (h : ∀ v ∈ tokens, IsToken v)
    {nodes : List Node} (hnodes : (ofTokens tokens).result = .ok nodes) :
    ∀ n ∈ nodes, n.IsStorable := by
  refine forall_mem_ofTokens (fun v hv => ?_) hnodes
  have htoken := h v hv
  clear h hv hnodes
  induction htoken with
  | mk hsound _ ih =>
    intro nodes hnodes
    refine isStorable_ofToken hsound (fun inner hinner => ?_) hnodes
    rw [ofChildTokens_eq] at hinner
    exact forall_mem_ofTokens ih hinner

end Node

end RichText
