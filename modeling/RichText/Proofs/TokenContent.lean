import RichText.Proofs.TokenShape
import RichText.Token.Content
import RichText.Tree.Content

/-!
# Proofs/TokenContent — what tokens say is what their trees say

    tokens ──ofTokens──▸ nodes ──allContents──▸ the same texts, in the same order
       └──────────────contents──────────────────────▴

No role of a token drops a text, says one twice or leaves the order of the tokens in it
(`Node.isCarried_saysSame`), so no list of tokens does (`Node.exists_ofTokens_saysSame`).
-/

namespace RichText

namespace Token

variable {entries : List (Value × Value)}

/-- **A token that says texts**: one of its own, or what the tokens in it say. -/
structure IsTextual (entries : List (Value × Value)) : Prop where
  type : (fieldOr "type" (.text []) entries).isKey = true
  raw (h : typeName entries ∈ textTypes ∨ Value.field? "children" entries = none) :
    (fieldOr "raw" (.text []) entries).IsText
  container (h : typeName entries ∈ containerTypes) :
    ∃ items, Value.field? "children" entries = some (.list items)

/-- A token with a text, of a type that does not need others in it. -/
theorem hasShape_of_raw {type : Text} (h : type ∉ containerTypes) (raw : Text) :
    HasShape IsTextual (.dict [entry "type" (.text type), entry "raw" (.text raw)]) :=
  .mk ⟨rfl, fun _ => ⟨raw, rfl⟩, fun hname => (h hname).elim⟩ (List.forall_mem_nil _)

/-- A token with others in it, of a type that does not need a text. -/
theorem hasShape_of_children {type : Text} (h : type ∉ textTypes) {items : List Value}
    (hitems : ∀ v ∈ items, HasShape IsTextual v) :
    HasShape IsTextual (.dict [entry "type" (.text type), entry "children" (.list items)]) := by
  refine .mk ⟨rfl, fun hraw => ?_, fun _ => ⟨items, rfl⟩⟩ hitems
  exact hraw.elim (fun hname => (h hname).elim) nofun

theorem IsTextual.isReadable (h : IsTextual entries) : IsReadable entries :=
  ⟨h.type, fun htype => h.raw (.inl htype)⟩

/-! ## What one token says -/

theorem childContents_eq (entries : List (Value × Value)) :
    childContents entries = contents (children entries) := by
  rw [childContents.eq_def]
  split
  · next hitems => rw [children_of_list hitems]
  · next hnone => rw [children_of_no_list hnone, contents]

/-- A token says what it says by itself, or else what the tokens in it say. -/
theorem contents_singleton (entries : List (Value × Value)) :
    contents [.dict entries] = (ownContents? entries).getD (contents (children entries)) := by
  rw [contents, contents, List.append_nil, ← childContents_eq]
  cases ownContents? entries <;> rfl

theorem contents_cons (v : Value) (rest : List Value) :
    contents (v :: rest) = contents [v] ++ contents rest := by
  cases v <;> simp [contents]

/-- A token that holds a text says it. -/
theorem ownContents?_of_text {name : Text} (h : typeName entries = name) (hname : name ∈ textTypes) :
    ownContents? entries = some [fieldOr "raw" (.text []) entries] := by
  subst h
  rw [typeName] at hname
  simp only [textTypes, List.mem_cons, List.not_mem_nil, or_false] at hname
  simp [ownContents?, hname, fieldOr]

theorem ownContents?_of_softbreak (h : typeName entries = "softbreak") :
    ownContents? entries = some [.text " "] := by
  rw [ownContents?, ← typeName, h]
  rfl

theorem ownContents?_of_blankLine (h : typeName entries = "blank_line") :
    ownContents? entries = some [] := by
  rw [ownContents?, ← typeName, h]
  rfl

/-- An image says the plain text of the tokens in it. -/
theorem ownContents?_of_image {t : Text} (h : typeName entries = "image")
    (ht : plainText (fieldOr "children" (.list []) entries) = .ok t) :
    ownContents? entries = some [.text t] := by
  rw [fieldOr] at ht
  rw [ownContents?, ← typeName, h, ht]
  rfl

/-- A token that has other tokens in it, and is no text or mark by its type, says nothing itself. -/
theorem ownContents?_of_children (h : typeName entries ∉ ("image" : Text) :: (textTypes ++ markTypes))
    (hchildren : (Value.field? "children" entries).isSome) : ownContents? entries = none := by
  rw [typeName] at h
  simp only [textTypes, markTypes, List.cons_append, List.nil_append, List.mem_cons,
    List.not_mem_nil, or_false, not_or] at h
  simp [ownContents?, h, Option.isSome_iff_ne_none.mp hchildren]

/-- A token without others in it, and of no type that tells what it says, says what it holds. -/
theorem ownContents?_of_no_children
    (h : typeName entries ∉ ("image" : Text) :: (textTypes ++ markTypes))
    (hchildren : Value.field? "children" entries = none) :
    ownContents? entries = some (Node.allContents (rawChildren entries)) := by
  rw [typeName] at h
  simp only [textTypes, markTypes, List.cons_append, List.nil_append, List.mem_cons,
    List.not_mem_nil, or_false, not_or] at h
  cases hraw : Value.field? "raw" entries with
  | none => simp [ownContents?, h, hchildren, hraw, rawChildren, Node.allContents, Value.truthy]
  | some raw =>
    by_cases ht : raw.truthy <;>
      simp [ownContents?, h, hchildren, hraw, rawChildren, ht, Node.allContents, Node.contents,
        textNode, Leaf.contents]

/-- **Nodes that say the same as tokens**, texts one after the other. -/
structure SaysSame (tokens : List Value) (nodes : List Node) : Prop where
  contents_eq : Node.allContents nodes = contents tokens
  texts : ∀ v ∈ contents tokens, v.IsText

theorem SaysSame.append {v : Value} {rest : List Value} {first others : List Node}
    (hfirst : SaysSame [v] first) (hothers : SaysSame rest others) :
    SaysSame (v :: rest) (first ++ others) where
  contents_eq := by
    rw [Node.allContents_append, hfirst.contents_eq, hothers.contents_eq, ← contents_cons]
  texts := by
    rw [contents_cons]
    exact List.forall_mem_append.mpr ⟨hfirst.texts, hothers.texts⟩

/-- What a token says by itself is in its nodes, if they say no more. -/
theorem saysSame_of_own {own : List Value} {nodes : List Node} (h : ownContents? entries = some own)
    (hnodes : Node.allContents nodes = own) (hown : ∀ v ∈ own, v.IsText) :
    SaysSame [.dict entries] nodes := by
  have heq : contents [.dict entries] = own := by rw [contents_singleton, h, Option.getD_some]
  exact ⟨hnodes.trans heq.symm, heq.symm ▸ hown⟩

/-- The node of a token that says nothing itself is as good as those of the tokens in it. -/
theorem saysSame_of_children {inner nodes : List Node} (h : ownContents? entries = none)
    (hinner : SaysSame (children entries) inner)
    (hnodes : Node.allContents nodes = Node.allContents inner) : SaysSame [.dict entries] nodes := by
  have heq : contents [.dict entries] = contents (children entries) := by
    rw [contents_singleton, h, Option.getD_none]
  exact ⟨(hnodes.trans hinner.contents_eq).trans heq.symm, heq.symm ▸ hinner.texts⟩

section Textual

variable (h : IsTextual entries)

include h

theorem IsTextual.saysSame_text {name : Text} {nodes : List Node} (hname : typeName entries = name)
    (htext : name ∈ textTypes)
    (hnodes : Node.allContents nodes = [fieldOr "raw" (.text []) entries]) :
    SaysSame [.dict entries] nodes :=
  saysSame_of_own (ownContents?_of_text hname htext) hnodes
    (List.forall_mem_singleton.mpr (h.raw (.inl (hname ▸ htext))))

/-- The node of a token that contains others, whichever branch it is. -/
theorem IsTextual.saysSame_container {name : Text} {inner nodes : List Node}
    (hname : typeName entries = name) (hcontainer : name ∈ containerTypes)
    (himage : name ≠ "image") (hinner : SaysSame (children entries) inner)
    (hnodes : Node.allContents nodes = Node.allContents inner) : SaysSame [.dict entries] nodes := by
  subst hname
  obtain ⟨items, hitems⟩ := h.container hcontainer
  refine saysSame_of_children (ownContents?_of_children (fun hmem => ?_) (by rw [hitems]; rfl)) hinner
    hnodes
  have hapart : ∀ n ∈ containerTypes, n ∉ textTypes ++ markTypes := by decide
  rcases List.mem_cons.mp hmem with heq | hmem
  · exact himage heq
  · exact hapart _ hcontainer hmem

theorem IsTextual.isText_rawChildren (hchildren : Value.field? "children" entries = none) :
    ∀ v ∈ Node.allContents (rawChildren entries), v.IsText := by
  rcases rawChildren_cases entries with hnone | hone
  · rw [hnone]
    exact List.forall_mem_nil _
  · rw [hone]
    exact List.forall_mem_singleton.mpr (h.raw (.inr hchildren))

theorem IsTextual.saysSame_other {type : Value} {inner nodes : List Node}
    (hname : typeName entries ∉ textTypes ++ containerTypes ++ markTypes)
    (hinner : SaysSame (children entries) inner)
    (hnodes : (Role.other type).nodes entries inner = .ok nodes) : SaysSame [.dict entries] nodes := by
  have hnone : typeName entries ∉ ("image" : Text) :: (textTypes ++ markTypes) := by
    have hsub : ("image" : Text) :: (textTypes ++ markTypes) ⊆ textTypes ++ containerTypes ++ markTypes := by
      decide
    exact fun hmem => hname (hsub hmem)
  cases hchildren : Value.field? "children" entries with
  | none =>
    simp only [Role.nodes, hchildren, Option.isSome_none, Bool.false_eq_true, if_false] at hnodes
    cases hnodes
    exact saysSame_of_own (ownContents?_of_no_children hnone hchildren)
      (by simp [Node.allContents, elementNode, Node.contents]) (h.isText_rawChildren hchildren)
  | some v =>
    simp only [Role.nodes, hchildren, Option.isSome_some, if_true] at hnodes
    cases hnodes
    exact saysSame_of_children (ownContents?_of_children hnone (by rw [hchildren]; rfl)) hinner
      (by simp [Node.allContents, elementNode, Node.contents])

end Textual

end Token

namespace Node

open Token

theorem allContents_plain (b : Branch) (inner : List Node) :
    allContents [plain b inner] = allContents inner := by
  simp [allContents, plain, contents]

theorem allContents_listNode (attributes : List (Value × Value)) (inner : List Node) :
    allContents [listNode attributes inner] = allContents inner := by
  rw [listNode]
  split <;> simp [allContents, contents]

/-- **Every role keeps what is said.** -/
theorem isCarried_saysSame : IsCarried IsTextual SaysSame where
  nil := ⟨by rw [Token.contents]; rfl, by rw [Token.contents]; exact List.forall_mem_nil _⟩
  cons := SaysSame.append
  token := by
    rintro entries r inner h hr ⟨t, ht⟩ hinner
    generalize hname : typeName entries = name at hr
    cases hr with
    | blankLine =>
      exact ⟨_, rfl, saysSame_of_own (ownContents?_of_blankLine hname) rfl (List.forall_mem_nil _)⟩
    | softbreak =>
      exact ⟨_, rfl, saysSame_of_own (ownContents?_of_softbreak hname) rfl
        (List.forall_mem_singleton.mpr ⟨_, rfl⟩)⟩
    | text => exact ⟨_, rfl, h.saysSame_text hname (by decide) rfl⟩
    | codespan => exact ⟨_, rfl, h.saysSame_text hname (by decide) rfl⟩
    | image =>
      refine ⟨_, by rw [Role.nodes, imageNode, ht]; rfl, ?_⟩
      exact saysSame_of_own (ownContents?_of_image hname ht) rfl
        (List.forall_mem_singleton.mpr ⟨t, rfl⟩)
    | blockText => exact ⟨_, rfl, h.saysSame_container hname (by decide) (by decide) hinner rfl⟩
    | list =>
      exact ⟨_, rfl, h.saysSame_container hname (by decide) (by decide) hinner
        (allContents_listNode _ _)⟩
    | other type hother => exact ⟨_, rfl, h.saysSame_other (hname ▸ hother) hinner rfl⟩
    | _ =>
      exact ⟨_, rfl, h.saysSame_container hname (by decide) (by decide) hinner
        (allContents_plain _ _)⟩

/-- **Tokens that say texts have nodes that say the same**: none is lost, none is said twice, and all
are in their order.  Tokens may be in one another as deeply as they like: an interpreter's limit on nested
calls is left out. -/
theorem ofTokens_keeps_contents {tokens : List Value} (h : ∀ v ∈ tokens, HasShape IsTextual v) :
    ∃ nodes said, (ofTokens tokens).result = .ok nodes
      ∧ allContents nodes = Token.contents tokens ∧ join (Token.contents tokens) = .ok said := by
  obtain ⟨nodes, hnodes, hsame⟩ :=
    isCarried_saysSame.exists_ofTokens (fun _ h => h.isReadable) h
  obtain ⟨said, hsaid⟩ := exists_join hsame.texts
  exact ⟨nodes, said, hnodes, hsame.contents_eq, hsaid⟩

/-- A tight item with a text, a line that goes on and an image, and a block of code behind the list. -/
theorem ofTokens_keeps_contents_sample :
    let raw (type raw : Text) : Value := .dict [entry "type" (.text type), entry "raw" (.text raw)]
    let parent (type : Text) (items : List Value) : Value :=
      .dict [entry "type" (.text type), entry "children" (.list items)]
    let item := parent "block_text" [raw "text" "a", raw "softbreak" "",
      parent "image" [parent "strong" [raw "codespan" "b"], raw "text" "c"]]
    let tokens := [parent "list" [parent "list_item" [item]], raw "block_code" "d"]
    ∃ nodes, (ofTokens tokens).result = .ok nodes
      ∧ allContents nodes = [.text "a", .text " ", .text "bc", .text "d"] := by
  intro raw parent item tokens
  have hsays : Token.contents tokens = [.text "a", .text " ", .text "bc", .text "d"] := by
    simp only [tokens, item, parent, raw]
    with_unfolding_all rfl
  have hraw {type : Text} (h : type ∉ containerTypes) (t : Text) : HasShape IsTextual (raw type t) :=
    hasShape_of_raw h t
  have hparent {type : Text} (h : type ∉ textTypes) {items : List Value}
      (hitems : ∀ v ∈ items, HasShape IsTextual v) : HasShape IsTextual (parent type items) :=
    hasShape_of_children h hitems
  have himage : ∀ v ∈ [parent "strong" [raw "codespan" "b"], raw "text" "c"], HasShape IsTextual v :=
    List.forall_mem_cons.mpr ⟨hparent (by decide) (List.forall_mem_singleton.mpr
      (hraw (by decide) _)), List.forall_mem_singleton.mpr (hraw (by decide) _)⟩
  have hitem : HasShape IsTextual item := hparent (by decide) (List.forall_mem_cons.mpr
    ⟨hraw (by decide) _, List.forall_mem_cons.mpr ⟨hraw (by decide) _,
      List.forall_mem_singleton.mpr (hparent (by decide) himage)⟩⟩)
  have hlist : HasShape IsTextual (parent "list" [parent "list_item" [item]]) :=
    hparent (by decide) (List.forall_mem_singleton.mpr
      (hparent (by decide) (List.forall_mem_singleton.mpr hitem)))
  have hcode : HasShape IsTextual (raw "block_code" "d") := hraw (by decide) _
  obtain ⟨nodes, -, hnodes, hcontents, -⟩ := ofTokens_keeps_contents
    (List.forall_mem_cons.mpr ⟨hlist, List.forall_mem_singleton.mpr hcode⟩)
  exact ⟨nodes, hnodes, hcontents.trans hsays⟩

end Node

end RichText
