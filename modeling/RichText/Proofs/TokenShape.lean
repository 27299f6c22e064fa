import RichText.Proofs.TokenTree
import RichText.Proofs.Walk

/-!
# Proofs/TokenShape — tokens that have nodes

    token ──role──▸ one row of a table, by its type ──nodes of the children──▸ nodes

A token has nodes as soon as its type can be a key and it holds a text where it says one itself
(`Token.IsReadable`).  Which nodes these are is found from its row and the nodes of the tokens in it
(`Node.result_ofToken`), so what every row carries from the children to the parent holds of all
tokens of a shape (`Node.exists_ofTokens`).
-/

namespace RichText

namespace Token

variable {entries : List (Value × Value)} {name : Text} {r : Role}

/-! ## Roles -/

/-- The name of a token's type; a type that is no text has none. -/
def typeName (entries : List (Value × Value)) : Text :=
  ((Value.field? "type" entries).bind Value.text?).getD []

/-- The types of tokens that say a text themselves. -/
def textTypes : List Text := ["text", "codespan"]

/-- The types of tokens that say what the tokens in them say, and have a node of their own. -/
def containerTypes : List Text :=
  ["heading", "paragraph", "block_text", "list", "list_item", "strong", "emphasis", "link", "image"]

/-- The types of tokens that say the same wherever they stand. -/
def markTypes : List Text := ["blank_line", "softbreak"]

/-- **The roles of tokens by the names of their types.** -/
inductive IsRole (entries : List (Value × Value)) : Text → Role → Prop
  | blankLine : IsRole entries "blank_line" .nothing
  | heading : IsRole entries "heading" (.branch (.heading (headingLevel (attributes entries))))
  | paragraph : IsRole entries "paragraph" (.branch .paragraph)
  | blockText : IsRole entries "block_text" .inlined
  | list : IsRole entries "list" (.list (attributes entries))
  | listItem : IsRole entries "list_item" (.branch .listItem)
  | text : IsRole entries "text" (.leaf (textNode (fieldOr "raw" (.text []) entries)))
  | strong : IsRole entries "strong" (.branch .strong)
  | emphasis : IsRole entries "emphasis" (.branch .emphasis)
  | codespan : IsRole entries "codespan"
    (.leaf (.branch .inlineCode [textNode (fieldOr "raw" (.text []) entries)] (.dict [])))
  | link : IsRole entries "link" (.branch (.link (fieldOr "url" (.text []) (attributes entries))
      (fieldOr "title" .null (attributes entries))))
  | image : IsRole entries "image"
    (.image (attributes entries) (fieldOr "children" (.list []) entries))
  | softbreak : IsRole entries "softbreak" (.leaf (textNode (.text " ")))
  | other {name : Text} (type : Value) (hname : name ∉ textTypes ++ containerTypes ++ markTypes) :
    IsRole entries name (.other type)

theorem exists_roleOfName? (entries : List (Value × Value))
    (hname : name ∈ textTypes ++ containerTypes ++ markTypes) :
    ∃ r, roleOfName? name entries = some r ∧ IsRole entries name r := by
  simp only [textTypes, containerTypes, markTypes, List.cons_append, List.nil_append,
    List.mem_cons, List.not_mem_nil, or_false] at hname
  rcases hname with rfl | rfl | rfl | rfl | rfl | rfl | rfl | rfl | rfl | rfl | rfl | rfl | rfl
  · exact ⟨_, rfl, .text⟩
  · exact ⟨_, rfl, .codespan⟩
  · exact ⟨_, rfl, .heading⟩
  · exact ⟨_, rfl, .paragraph⟩
  · exact ⟨_, rfl, .blockText⟩
  · exact ⟨_, rfl, .list⟩
  · exact ⟨_, rfl, .listItem⟩
  · exact ⟨_, rfl, .strong⟩
  · exact ⟨_, rfl, .emphasis⟩
  · exact ⟨_, rfl, .link⟩
  · exact ⟨_, rfl, .image⟩
  · exact ⟨_, rfl, .blankLine⟩
  · exact ⟨_, rfl, .softbreak⟩

theorem roleOfName?_eq_none (hname : name ∉ textTypes ++ containerTypes ++ markTypes) :
    roleOfName? name entries = none := by
  simp only [textTypes, containerTypes, markTypes, List.cons_append, List.nil_append,
    List.mem_cons, List.not_mem_nil, or_false, not_or] at hname
  simp [roleOfName?, hname]

/-- A type that can be a key has a role, which its name tells. -/
theorem exists_role (h : (fieldOr "type" (.text []) entries).isKey = true) :
    ∃ r, role entries = .ok r ∧ IsRole entries (typeName entries) r := by
  have htype : typeName entries = (fieldOr "type" (.text []) entries).text?.getD [] := by
    rw [typeName, fieldOr]
    cases Value.field? "type" entries <;> rfl
  rw [role, h, htype]
  refine ⟨_, rfl, ?_⟩
  cases (fieldOr "type" (.text []) entries).text? with
  | none => exact .other _ (by decide)
  | some name =>
    rw [Option.bind_some, Option.getD_some]
    by_cases hname : name ∈ textTypes ++ containerTypes ++ markTypes
    · obtain ⟨r, hr, hrole⟩ := exists_roleOfName? entries hname
      rw [hr]
      exact hrole
    · rw [roleOfName?_eq_none hname]
      exact .other _ hname

/-! ## Shapes -/

/-- **Tokens of a shape**: mappings that have it, with tokens of the shape in them. -/
inductive HasShape (P : List (Value × Value) → Prop) : Value → Prop
  | mk {entries : List (Value × Value)} (h : P entries)
    (hchildren : ∀ v ∈ children entries, HasShape P v) : HasShape P (.dict entries)

theorem HasShape.mono {P Q : List (Value × Value) → Prop} {v : Value} (h : HasShape P v)
    (himp : ∀ entries, P entries → Q entries) : HasShape Q v := by
  induction h with
  | mk h _ ih => exact .mk (himp _ h) ih

theorem hasShape_dict {P : List (Value × Value) → Prop} :
    HasShape P (.dict entries) ↔ P entries ∧ ∀ v ∈ children entries, HasShape P v :=
  ⟨fun ⟨h, hchildren⟩ => ⟨h, hchildren⟩, fun ⟨h, hchildren⟩ => ⟨h, hchildren⟩⟩

/-- **A token that can be read**: its type can be a key, and it holds a text where it says one. -/
structure IsReadable (entries : List (Value × Value)) : Prop where
  type : (fieldOr "type" (.text []) entries).isKey = true
  raw : typeName entries ∈ textTypes → (fieldOr "raw" (.text []) entries).IsText

/-! ## Plain text -/

theorem eq_text_of_same {v : Value} {t : Text} (h : v.same (.text t) = true) : v = .text t := by
  cases v <;> simp_all [Value.same, Value.numEq, Value.int?]

/-- A type is one of given ones by its name. -/
theorem typeName_mem_of_isOneOf {names : List Text}
    (h : isOneOf names ((Value.field? "type" entries).getD .null) = .ok true) :
    typeName entries ∈ names := by
  rw [isOneOf] at h
  split at h
  · obtain ⟨n, hn, hsame⟩ := List.any_eq_true.mp (Except.ok.inj h)
    have htype := eq_text_of_same hsame
    rw [typeName]
    cases hv : Value.field? "type" entries with
    | none => simp [hv] at htype
    | some v =>
      rw [hv, Option.getD_some] at htype
      rw [htype]
      exact hn
  · exact nomatch h

/-- The piece of a token that can be read: a text of its own, or the tokens in it. -/
theorem IsReadable.piece_cases (h : IsReadable entries) :
    (∃ t, piece entries = .ok (.own (.text t)))
      ∨ piece entries = .ok (.nested (children entries)) := by
  have hkey : ((Value.field? "type" entries).getD .null).isKey = true := by
    have htype := h.type
    rw [fieldOr] at htype
    cases hv : Value.field? "type" entries with
    | none => rfl
    | some v => simpa [hv] using htype
  have hone (names : List Text) :
      ∃ b, isOneOf names ((Value.field? "type" entries).getD .null) = .ok b := ⟨_, if_pos hkey⟩
  obtain ⟨saysText, hsays⟩ := hone ["text", "codespan"]
  obtain ⟨breaks, hbreaks⟩ := hone ["softbreak", "linebreak"]
  rw [piece, hsays, hbreaks]
  cases saysText with
  | true =>
    obtain ⟨t, ht⟩ := h.raw (typeName_mem_of_isOneOf hsays)
    exact Or.inl ⟨t, congrArg (fun v => Except.ok (Piece.own v)) ht⟩
  | false =>
    cases breaks with
    | true => exact Or.inl ⟨_, rfl⟩
    | false =>
      refine Or.inr ?_
      simp only [bind, Except.bind, pure, Except.pure, Bool.false_eq_true, if_false]
      split
      · next hitems => rw [children_of_list hitems]
      · next hnone => rw [children_of_no_list hnone]

theorem exists_join {vs : List Value} (h : ∀ v ∈ vs, v.IsText) : ∃ t, join vs = .ok t := by
  induction vs with
  | nil => exact ⟨[], rfl⟩
  | cons v rest ih =>
    obtain ⟨⟨t, rfl⟩, hrest⟩ := List.forall_mem_cons.mp h
    obtain ⟨u, hu⟩ := ih hrest
    exact ⟨t ++ u, by rw [join, hu]; rfl⟩

theorem collect_own {found rest : List Value} {v : Value} (h : piece entries = .ok (.own v)) :
    collect found (.dict entries :: rest) = collect (v :: found) rest := by
  rw [collect]
  split <;> simp_all

theorem collect_nested {found rest items : List Value} (h : piece entries = .ok (.nested items)) :
    collect found (.dict entries :: rest) = collect found (items ++ rest) := by
  rw [collect]
  split <;> simp_all

/-- Tokens that can be read are gone through to the end. -/
theorem exists_collect {found pending : List Value} (hpending : ∀ v ∈ pending, HasShape IsReadable v)
    (hfound : ∀ v ∈ found, v.IsText) :
    ∃ texts, collect found pending = .ok texts ∧ ∀ v ∈ texts, v.IsText := by
  induction found, pending using collect.induct with
  | case1 found =>
    exact ⟨_, by rw [collect], fun v hv => hfound v (List.mem_reverse.mp hv)⟩
  | case2 found entries rest e he =>
    have h := hasShape_dict.mp (List.forall_mem_cons.mp hpending).1
    rcases h.1.piece_cases with ⟨t, ht⟩ | hnested
    · exact nomatch he.symm.trans ht
    · exact nomatch he.symm.trans hnested
  | case3 found entries rest v hv ih =>
    obtain ⟨h, hrest⟩ := List.forall_mem_cons.mp hpending
    have hown : v.IsText := by
      rcases (hasShape_dict.mp h).1.piece_cases with ⟨t, ht⟩ | hnested
      · exact ⟨t, by simpa [hv] using ht⟩
      · exact nomatch hv.symm.trans hnested
    rw [collect_own hv]
    exact ih hrest (List.forall_mem_cons.mpr ⟨hown, hfound⟩)
  | case4 found entries rest items hitems _ _ ih =>
    obtain ⟨h, hrest⟩ := List.forall_mem_cons.mp hpending
    obtain ⟨hentries, hchildren⟩ := hasShape_dict.mp h
    have hin : items = children entries := by
      rcases hentries.piece_cases with ⟨t, ht⟩ | hnested
      · exact nomatch hitems.symm.trans ht
      · simpa [hitems] using hnested
    rw [collect_nested hitems]
    exact ih (List.forall_mem_append.mpr ⟨hin ▸ hchildren, hrest⟩) hfound
  | case5 found v rest hv ih =>
    obtain ⟨h, -⟩ := List.forall_mem_cons.mp hpending
    obtain ⟨⟩ := h
    exact (hv _ rfl).elim

/-- **The tokens in a token have a plain text**, if they can be read. -/
theorem exists_plainText (h : ∀ v ∈ children entries, HasShape IsReadable v) :
    ∃ t, plainText (fieldOr "children" (.list []) entries) = .ok t := by
  have hlist {items : List Value} (hitems : ∀ v ∈ items, HasShape IsReadable v) :
      ∃ t, plainText (.list items) = .ok t := by
    obtain ⟨texts, htexts, hall⟩ := exists_collect hitems (List.forall_mem_nil _)
    obtain ⟨t, ht⟩ := exists_join hall
    exact ⟨t, by rw [plainText, htexts]; exact ht⟩
  rw [fieldOr]
  cases hv : Value.field? "children" entries with
  | none => exact hlist (List.forall_mem_nil _)
  | some v =>
    cases v with
    | list items => exact hlist (children_of_list hv ▸ h)
    | _ => exact ⟨[], rfl⟩

/-! ## Nodes -/

/-- **The nodes of a token with a role**, found from those of the tokens in it. -/
def Role.nodes (entries : List (Value × Value)) (inner : List Node) :
    Role → Except Failure (List Node)
  | nothing => .ok []
  | leaf n => .ok [n]
  | image attributes children => (imageNode attributes children).map ([·])
  | branch b => .ok [.plain b inner]
  | list attributes => .ok [listNode attributes inner]
  | inlined => .ok inner
  | other type =>
    let children := if (Value.field? "children" entries).isSome then inner else rawChildren entries
    .ok [elementNode type entries children]

end Token

namespace Node

open Token

variable {entries : List (Value × Value)}

/-- The nodes of a token are those its role makes of the nodes of the tokens in it. -/
theorem result_ofToken {r : Role} {inner : List Node} (hr : role entries = .ok r)
    (hinner : (ofChildTokens entries).result = .ok inner) :
    (ofToken (.dict entries)).result = r.nodes entries inner := by
  have hbind {β : Type} (f : List Node → Outcome β) :
      (ofChildTokens entries >>= f).result = (f inner).result := by
    rw [Outcome.bind_of_ok hinner]
    rfl
  rw [ofToken, hr]
  cases r with
  | nothing => rfl
  | leaf n => rfl
  | image attributes children =>
    change (Outcome.ofExcept (imageNode attributes children) >>= fun n => pure [n]).result = _
    rw [Role.nodes]
    cases imageNode attributes children <;> rfl
  | branch b => exact hbind _
  | list attributes => exact hbind _
  | inlined => exact hinner
  | other type =>
    rw [Role.nodes]
    cases (Value.field? "children" entries).isSome with
    | true => exact hbind _
    | false => rfl

theorem result_ofTokens_cons {v : Value} {rest : List Value} {first others : List Node}
    (hfirst : (ofToken v).result = .ok first) (hothers : (ofTokens rest).result = .ok others) :
    (ofTokens (v :: rest)).result = .ok (first ++ others) := by
  rw [ofTokens, Outcome.bind_of_ok hfirst, Outcome.bind_of_ok hothers]
  rfl

/-- **What roles carry from tokens to nodes**: a relation between lists of them that concatenation keeps,
and every token of a shape with the nodes of its role, if it has the tokens in it with theirs. -/
structure IsCarried (P : List (Value × Value) → Prop) (R : List Value → List Node → Prop) : Prop where
  nil : R [] []
  cons {v : Value} {rest : List Value} {first others : List Node} (hfirst : R [v] first)
    (hothers : R rest others) : R (v :: rest) (first ++ others)
  token {entries : List (Value × Value)} {r : Role} {inner : List Node} (h : P entries)
    (hr : IsRole entries (typeName entries) r)
    (halt : ∃ t, plainText (fieldOr "children" (.list []) entries) = .ok t)
    (hinner : R (Token.children entries) inner) :
    ∃ nodes, r.nodes entries inner = .ok nodes ∧ R [.dict entries] nodes

variable {P : List (Value × Value) → Prop} {R : List Value → List Node → Prop}

theorem IsCarried.exists_ofTokens_of (hR : IsCarried P R) {tokens : List Value}
    (h : ∀ v ∈ tokens, ∃ nodes, (ofToken v).result = .ok nodes ∧ R [v] nodes) :
    ∃ nodes, (ofTokens tokens).result = .ok nodes ∧ R tokens nodes := by
  induction tokens with
  | nil => exact ⟨[], by rw [ofTokens]; rfl, hR.nil⟩
  | cons v rest ih =>
    obtain ⟨⟨first, hfirst, hv⟩, hrest⟩ := List.forall_mem_cons.mp h
    obtain ⟨others, hothers, hR'⟩ := ih hrest
    exact ⟨first ++ others, result_ofTokens_cons hfirst hothers, hR.cons hv hR'⟩

/-- **Tokens that can be read have nodes**, and what roles carry holds between them. -/
theorem IsCarried.exists_ofTokens (hR : IsCarried P R) (hP : ∀ entries, P entries → IsReadable entries)
    {tokens : List Value} (h : ∀ v ∈ tokens, HasShape P v) :
    ∃ nodes, (ofTokens tokens).result = .ok nodes ∧ R tokens nodes := by
  refine hR.exists_ofTokens_of fun v hv => ?_
  have hshape := h v hv
  clear h hv
  induction hshape with
  | @mk entries hentries hchildren ih =>
    obtain ⟨r, hr, hrole⟩ := exists_role (hP _ hentries).type
    obtain ⟨inner, hinner, hcarried⟩ := hR.exists_ofTokens_of ih
    obtain ⟨nodes, hnodes, hown⟩ := hR.token hentries hrole
      (exists_plainText fun v hv => (hchildren v hv).mono hP) hcarried
    rw [← ofChildTokens_eq] at hinner
    exact ⟨nodes, (result_ofToken hr hinner).trans hnodes, hown⟩

end Node

end RichText
