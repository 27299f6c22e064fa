import RichText.Proofs.Failing
import RichText.Proofs.Sweep
import RichText.Proofs.TokenContent

/-!
# Proofs/PlainText — plain text is flattened text, and what the tree of inline tokens says

    tokens ──collect──▸ pieces ──join──▸ plain text
      ├──────────────flatText────────────────▲
      └──ofTokens──▸ nodes ──join────────────┘   (inline tokens)

Whatever tokens hold besides texts, their plain text is their flattening (`flatText`), unless one
that is met on the way has a type that cannot be looked up (`exists_flatten`, `flatten_eq_error`).
Nodes of inline tokens are made by other rules, and say the same (`Node.isCarried_saysPlain`): an
image has for its alternative text what a link with the same tokens in it says.
-/

namespace RichText

namespace Token

variable {entries : List (Value × Value)} {tokens rest : List Value} {v : Value}

/-! ## Flattening -/

/-- The text a token adds by itself, if it does not leave that to the tokens in it. -/
def ownText? (entries : List (Value × Value)) : Option Text :=
  if textTypes.contains (typeName entries) then
    some (((Value.field? "raw" entries).bind Value.text?).getD [])
  else if breakTypes.contains (typeName entries) then some " "
  else none

/-- **The flattening of tokens**: what texts and code spans hold, a blank for a break, and for every
other mapping the flattening of the list of tokens in it; what is no mapping adds nothing. -/
def flatText (tokens : List Value) : Text :=
  match tokens with
  | [] => []
  | .dict entries :: rest =>
    have := sizeOf_children entries
    (ownText? entries).getD (flatText (children entries)) ++ flatText rest
  | _ :: rest => flatText rest
termination_by sizeOf tokens
decreasing_by
  all_goals simp only [List.cons.sizeOf_spec, Value.dict.sizeOf_spec]; omega

/-- **A value that holds texts where tokens say them**, at any depth; what is no mapping says
nothing. -/
inductive HoldsTexts : Value → Prop
  | token {entries : List (Value × Value)}
    (hraw : typeName entries ∈ textTypes → (fieldOr "raw" (.text []) entries).IsText)
    (hchildren : ∀ v ∈ children entries, HoldsTexts v) : HoldsTexts (.dict entries)
  | other {v : Value} (h : ∀ entries, v ≠ .dict entries) : HoldsTexts v

theorem holdsTexts_dict : HoldsTexts (.dict entries)
    ↔ (typeName entries ∈ textTypes → (fieldOr "raw" (.text []) entries).IsText)
      ∧ ∀ v ∈ children entries, HoldsTexts v := by
  refine ⟨fun h => ?_, fun ⟨hraw, hchildren⟩ => .token hraw hchildren⟩
  generalize hv : Value.dict entries = v at h
  cases h with
  | token hraw hchildren =>
    cases hv
    exact ⟨hraw, hchildren⟩
  | other h => exact absurd hv.symm (h _)

/-- **The mappings met on the way through tokens**: those among them, and those met on the way
through the tokens in one that has no text of its own. -/
inductive IsMet : List Value → List (Value × Value) → Prop
  | here {tokens : List Value} {entries : List (Value × Value)} (h : .dict entries ∈ tokens) :
    IsMet tokens entries
  | inside {tokens : List Value} {outer entries : List (Value × Value)} (h : .dict outer ∈ tokens)
    (hown : ownText? outer = none) (hinner : IsMet (children outer) entries) : IsMet tokens entries

theorem IsMet.cons (h : IsMet rest entries) (v : Value) : IsMet (v :: rest) entries := by
  cases h with
  | here h => exact .here (List.mem_cons_of_mem _ h)
  | inside h hown hinner => exact .inside (List.mem_cons_of_mem _ h) hown hinner

/-- The piece of a token is the text it has of its own, or else the tokens in it. -/
theorem piece_eq (hkey : hasKey entries = true)
    (hraw : typeName entries ∈ textTypes → (fieldOr "raw" (.text []) entries).IsText) :
    piece entries
      = .ok ((ownText? entries).elim (.nested (children entries)) fun t => .own (.text t)) := by
  rw [piece_of_hasKey hkey]
  simp only [ownText?, List.contains_iff_mem]
  by_cases hname : typeName entries ∈ textTypes
  · obtain ⟨t, ht⟩ := hraw hname
    have htext : ((Value.field? "raw" entries).bind Value.text?).getD [] = t := by
      rw [fieldOr] at ht
      cases hv : Value.field? "raw" entries <;> simp_all [Value.text?]
    rw [if_pos hname, if_pos hname, htext, ht]
    rfl
  · rw [if_neg hname, if_neg hname]
    by_cases hbreak : typeName entries ∈ breakTypes
    · rw [if_pos hbreak, if_pos hbreak]
      rfl
    · rw [if_neg hbreak, if_neg hbreak]
      rfl

theorem piece_of_ownText?_eq_none (hkey : hasKey entries = true)
    (hown : ownText? entries = none) : piece entries = .ok (.nested (children entries)) := by
  have hname : typeName entries ∉ textTypes := fun hname => by simp [ownText?, hname] at hown
  rw [piece_eq hkey fun h => absurd h hname, hown]
  rfl

/-! ## Where nothing goes wrong -/

theorem join_singleton (t : Text) : join [.text t] = .ok t := by
  rw [join, join, Except.map, List.append_nil]

theorem join_text (t : Text) : join (.text t :: rest) = (do return t ++ (← join rest)) := by
  rw [join]
  cases join rest <;> rfl

theorem join_append (xs ys : List Value) :
    join (xs ++ ys) = (do return (← join xs) ++ (← join ys)) := by
  induction xs with
  | nil =>
    change join ys = (do return [] ++ (← join ys))
    simp
  | cons v rest ih =>
    cases v with
    | text t =>
      simp only [List.cons_append, join_text, ih, bind_assoc, pure_bind, List.append_assoc]
    | _ => rfl

/-- **Tokens whose types can be looked up are flattened.** -/
theorem exists_flatten (hraw : ∀ v ∈ tokens, HoldsTexts v)
    (hkeys : ∀ entries, IsMet tokens entries → hasKey entries = true) :
    ∃ texts, flatten tokens = .ok texts ∧ join texts = .ok (flatText tokens) := by
  induction tokens using flatText.induct with
  | case1 => exact ⟨[], flatten_nil, by rw [join, flatText]⟩
  | case2 entries rest _ ihChildren ihRest =>
    obtain ⟨htoken, hrest⟩ := List.forall_mem_cons.mp hraw
    obtain ⟨htext, hchildren⟩ := holdsTexts_dict.mp htoken
    obtain ⟨others, hothers, hjoin⟩ := ihRest hrest fun e he => hkeys e (he.cons _)
    -- What is in a token is met, and has to be flattened, only where it has no text of its own.
    have hpiece := piece_eq (hkeys entries (.here List.mem_cons_self)) htext
    rw [flatText]
    cases hown : ownText? entries with
    | some t =>
      rw [hown] at hpiece
      refine ⟨.text t :: others, by rw [flatten_own hpiece, hothers]; rfl, ?_⟩
      rw [join_text, hjoin]
      rfl
    | none =>
      rw [hown] at hpiece
      obtain ⟨inner, hinner, hjoin'⟩ :=
        ihChildren hchildren fun e he => hkeys e (.inside List.mem_cons_self hown he)
      refine ⟨inner ++ others, by rw [flatten_nested hpiece, hinner, hothers]; rfl, ?_⟩
      rw [join_append, hjoin', hjoin]
      rfl
  | case3 v rest hv ih =>
    obtain ⟨others, hothers, hjoin⟩ :=
      ih (List.forall_mem_cons.mp hraw).2 fun e he => hkeys e (he.cons _)
    refine ⟨others, by rw [flatten_of_not_dict hv, hothers], ?_⟩
    rw [hjoin, flatText]
    exact hv

/-! ## Where something goes wrong -/

/-- Looking for a piece fails for nothing but a type that cannot be looked up. -/
theorem piece_failsAs (entries : List (Value × Value)) : FailsAs (· = .misuse) (piece entries) := by
  cases hkey : hasKey entries with
  | false =>
    rw [piece_of_not_hasKey hkey]
    exact .error rfl
  | true =>
    rw [piece_of_hasKey hkey]
    exact .ok _

theorem flatten_failsAs (tokens : List Value) : FailsAs (· = .misuse) (flatten tokens) := by
  induction tokens using flatText.induct with
  | case1 => exact flatten_nil ▸ .ok _
  | case2 entries rest _ ihChildren ihRest =>
    cases hp : piece entries with
    | error e =>
      rw [flatten_of_error hp]
      exact .error (piece_failsAs entries e hp)
    | ok p =>
      cases p with
      | own v =>
        rw [flatten_own hp]
        exact ihRest.bind fun _ _ => .ok _
      | nested items =>
        obtain rfl := eq_children_of_piece hp
        rw [flatten_nested hp]
        exact ihChildren.bind fun _ _ => ihRest.bind fun _ _ => .ok _
  | case3 v rest hv ih =>
    rw [flatten_of_not_dict hv]
    exact ih

/-- Each of several tokens that are flattened can be flattened alone. -/
theorem exists_flatten_singleton {texts : List Value} (h : flatten tokens = .ok texts)
    (hv : v ∈ tokens) : ∃ own, flatten [v] = .ok own := by
  obtain ⟨before, behind, rfl⟩ := List.append_of_mem hv
  rw [flatten_append] at h
  obtain ⟨_, -, h⟩ := except_bind_eq_ok.mp h
  obtain ⟨_, h, -⟩ := except_bind_eq_ok.mp h
  rw [← List.singleton_append, flatten_append] at h
  obtain ⟨own, hown, -⟩ := except_bind_eq_ok.mp h
  exact ⟨own, hown⟩

theorem hasKey_of_flatten_singleton {texts : List Value}
    (h : flatten [.dict entries] = .ok texts) : hasKey entries = true := by
  cases hkey : hasKey entries with
  | false => exact nomatch h.symm.trans (flatten_of_error (piece_of_not_hasKey hkey))
  | true => rfl

/-- The types of all mappings met in tokens that are flattened can be looked up. -/
theorem hasKey_of_flatten {texts : List Value} (h : flatten tokens = .ok texts)
    (hmet : IsMet tokens entries) : hasKey entries = true := by
  induction hmet generalizing texts with
  | here hmem =>
    obtain ⟨own, hown⟩ := exists_flatten_singleton h hmem
    exact hasKey_of_flatten_singleton hown
  | inside hmem hown _ ih =>
    obtain ⟨own, hsingle⟩ := exists_flatten_singleton h hmem
    have hpiece := piece_of_ownText?_eq_none (hasKey_of_flatten_singleton hsingle) hown
    rw [flatten_nested hpiece] at hsingle
    obtain ⟨inner, hinner, -⟩ := except_bind_eq_ok.mp hsingle
    exact ih hinner

/-- **A type that cannot be looked up is refused**, wherever it is met. -/
theorem flatten_eq_error (hmet : IsMet tokens entries) (hkey : hasKey entries = false) :
    flatten tokens = .error .misuse := by
  cases h : flatten tokens with
  | error e => rw [flatten_failsAs tokens e h]
  | ok texts => exact absurd (hasKey_of_flatten h hmet) (by simp [hkey])

/-! ## Plain text -/

theorem plainText_list (tokens : List Value) :
    plainText (.list tokens) = flatten tokens >>= join := by
  rw [plainText, collect_eq_flatten]
  simp only [List.reverse_nil, List.nil_append, bind_pure]

theorem plainText_append {xs ys : List Value} {s t : Text} (hs : plainText (.list xs) = .ok s)
    (ht : plainText (.list ys) = .ok t) : plainText (.list (xs ++ ys)) = .ok (s ++ t) := by
  rw [plainText_list] at hs ht ⊢
  obtain ⟨first, hfirst, hs⟩ := except_bind_eq_ok.mp hs
  obtain ⟨others, hothers, ht⟩ := except_bind_eq_ok.mp ht
  rw [flatten_append, hfirst, hothers]
  change join (first ++ others) = _
  rw [join_append, hs, ht]
  rfl

/-- A token that holds a text says it. -/
theorem plainText_own {t : Text} (h : piece entries = .ok (.own (.text t))) :
    plainText (.list [.dict entries]) = .ok t := by
  rw [plainText_list, flatten_own h, flatten_nil]
  exact join_singleton t

/-- A token that holds none says what the tokens in it say. -/
theorem plainText_nested (h : piece entries = .ok (.nested (children entries))) :
    plainText (.list [.dict entries]) = plainText (.list (children entries)) := by
  rw [plainText_list, plainText_list, flatten_nested h, flatten_nil]
  simp only [pure_bind, List.append_nil, bind_pure]

/-- What stands where the tokens in a token should be has their plain text, whatever it is. -/
theorem plainText_children (entries : List (Value × Value)) :
    plainText (fieldOr "children" (.list []) entries) = plainText (.list (children entries)) := by
  have hnil : plainText (.list []) = .ok [] := by rw [plainText_list, flatten_nil]; rfl
  rw [fieldOr]
  cases hv : Value.field? "children" entries with
  | none => rw [children_of_no_list (by simp [hv])]; rfl
  | some v =>
    cases v with
    | list items => rw [children_of_list hv]; rfl
    | _ => rw [children_of_no_list (by simp [hv]), hnil]; rfl

/-! ## Inline tokens -/

/-- The types of tokens whose trees say what the tokens do, if all tokens in them are of these types
too. -/
def inlineTypes : List Text :=
  ["text", "codespan", "softbreak", "strong", "emphasis", "link", "image"]

/-- A type that has a name can be looked up. -/
theorem isKey_of_typeName (h : typeName entries ≠ []) (default : Value) :
    (fieldOr "type" default entries).isKey = true := by
  rw [typeName] at h
  rw [fieldOr]
  cases hv : Value.field? "type" entries with
  | none => simp [hv] at h
  | some v =>
    cases v with
    | text t => rfl
    | _ => simp [hv, Value.text?] at h

/-- **An inline token**, which holds a text where it says one itself. -/
structure IsInline (entries : List (Value × Value)) : Prop where
  type : typeName entries ∈ inlineTypes
  raw : typeName entries ∈ textTypes → (fieldOr "raw" (.text []) entries).IsText

theorem isKey_of_inlineTypes (h : typeName entries ∈ inlineTypes) (default : Value) :
    (fieldOr "type" default entries).isKey = true := by
  have hnil : [] ∉ inlineTypes := by decide
  exact isKey_of_typeName (fun heq => hnil (heq ▸ h)) default

theorem IsInline.isReadable (h : IsInline entries) : IsReadable entries :=
  ⟨isKey_of_inlineTypes h.type _, h.raw⟩

theorem HasShape.isInline (h : HasShape (typeName · ∈ inlineTypes) v) (hraw : HoldsTexts v) :
    HasShape IsInline v := by
  induction h with
  | mk htype _ ih =>
    obtain ⟨htext, hchildren⟩ := holdsTexts_dict.mp hraw
    exact .mk ⟨htype, htext⟩ fun v hv => ih v hv (hchildren v hv)

/-- All that is met on the way through tokens of a shape has it. -/
theorem IsMet.of_hasShape {P : List (Value × Value) → Prop} (hmet : IsMet tokens entries)
    (h : ∀ v ∈ tokens, HasShape P v) : P entries := by
  induction hmet with
  | here hmem => exact (hasShape_dict.mp (h _ hmem)).1
  | inside hmem _ _ ih => exact ih (hasShape_dict.mp (h _ hmem)).2

/-- A type of which a role is known by its name has that role. -/
theorem role_of_typeName {r : Role} (h : roleOfName? (typeName entries) entries = some r) :
    role entries = .ok r := by
  have hne : typeName entries ≠ [] := by
    intro heq
    rw [heq, roleOfName?_eq_none (by decide)] at h
    cases h
  rw [role, isKey_of_typeName hne]
  rw [typeName] at h hne
  rw [fieldOr]
  cases hv : Value.field? "type" entries with
  | none => simp [hv] at hne
  | some v =>
    cases v with
    | text name =>
      rw [hv] at h
      change Except.ok ((roleOfName? name entries).getD _) = _
      rw [show roleOfName? name entries = some r from h]
      rfl
    | _ => simp [hv, Value.text?] at hne

end Token

namespace Node

open Token

variable {entries : List (Value × Value)} {nodes : List Node}

/-- **Nodes that say the plain text of tokens.** -/
def SaysPlain (tokens : List Value) (nodes : List Node) : Prop :=
  ∃ t, plainText (.list tokens) = .ok t ∧ join (allContents nodes) = .ok t

theorem SaysPlain.append {v : Value} {rest : List Value} {first others : List Node}
    (hfirst : SaysPlain [v] first) (hothers : SaysPlain rest others) :
    SaysPlain (v :: rest) (first ++ others) := by
  obtain ⟨s, hs, hfirst⟩ := hfirst
  obtain ⟨t, ht, hothers⟩ := hothers
  refine ⟨s ++ t, plainText_append hs ht, ?_⟩
  rw [allContents_append, join_append, hfirst, hothers]
  rfl

section Inline

variable (h : IsInline entries)

include h

theorem saysPlain_of_own {name : Text} (hname : typeName entries = name)
    (htext : name ∈ textTypes) (hnodes : allContents nodes = [fieldOr "raw" (.text []) entries]) :
    SaysPlain [.dict entries] nodes := by
  subst hname
  obtain ⟨t, ht⟩ := h.raw htext
  have hpiece := piece_of_hasKey (isKey_of_inlineTypes h.type _)
  rw [if_pos htext, ht] at hpiece
  refine ⟨t, plainText_own hpiece, ?_⟩
  rw [hnodes, ht, join_singleton]

theorem saysPlain_of_break {name : Text} (hname : typeName entries = name)
    (hbreak : name ∈ breakTypes) (hnodes : allContents nodes = [.text " "]) :
    SaysPlain [.dict entries] nodes := by
  subst hname
  have htext : typeName entries ∉ textTypes := by
    have hapart : ∀ name ∈ breakTypes, name ∉ textTypes := by decide
    exact hapart _ hbreak
  have hpiece := piece_of_hasKey (isKey_of_inlineTypes h.type _)
  rw [if_neg htext, if_pos hbreak] at hpiece
  refine ⟨" ", plainText_own hpiece, ?_⟩
  rw [hnodes, join_singleton]

/-- A token without a text of its own has nodes that say what those of the tokens in it say. -/
theorem saysPlain_of_children {name t : Text} (hname : typeName entries = name)
    (hnone : name ∉ textTypes ++ breakTypes)
    (ht : plainText (.list (Token.children entries)) = .ok t)
    (hnodes : join (allContents nodes) = .ok t) : SaysPlain [.dict entries] nodes := by
  subst hname
  obtain ⟨htext, hbreak⟩ := not_or.mp fun hor => hnone (List.mem_append.mpr hor)
  have hpiece := piece_of_hasKey (isKey_of_inlineTypes h.type _)
  rw [if_neg htext, if_neg hbreak] at hpiece
  exact ⟨t, (plainText_nested hpiece).trans ht, hnodes⟩

end Inline

/-- **The roles of inline tokens say their plain text.** -/
theorem isCarried_saysPlain : IsCarried IsInline SaysPlain where
  nil := ⟨[], by rw [plainText_list, flatten_nil]; rfl, rfl⟩
  cons := SaysPlain.append
  token := by
    rintro entries r inner h hr ⟨alt, halt⟩ ⟨t, ht, hinner⟩
    have hcontent (b : Branch) : join (allContents [plain b inner]) = .ok t := by
      rw [allContents_plain]
      exact hinner
    have hinline := h.type
    generalize hname : typeName entries = name at hr hinline
    cases hr with
    | text => exact ⟨_, rfl, saysPlain_of_own h hname (by decide) rfl⟩
    | codespan => exact ⟨_, rfl, saysPlain_of_own h hname (by decide) rfl⟩
    | softbreak => exact ⟨_, rfl, saysPlain_of_break h hname (by decide) rfl⟩
    | strong => exact ⟨_, rfl, saysPlain_of_children h hname (by decide) ht (hcontent _)⟩
    | emphasis => exact ⟨_, rfl, saysPlain_of_children h hname (by decide) ht (hcontent _)⟩
    | link => exact ⟨_, rfl, saysPlain_of_children h hname (by decide) ht (hcontent _)⟩
    | image =>
      obtain rfl : alt = t :=
        Except.ok.inj (halt.symm.trans ((plainText_children entries).trans ht))
      refine ⟨_, by rw [Role.nodes, imageNode, halt]; rfl, ?_⟩
      exact saysPlain_of_children h hname (by decide) ht (join_singleton alt)
    -- Inline tokens have no other type.
    | other _ hother =>
      have hsub : inlineTypes ⊆ textTypes ++ containerTypes ++ markTypes := by decide
      exact absurd (hsub hinline) hother
    | _ => exact absurd hinline (by decide)

/-- The node of an image has the plain text of the tokens in it for its alternative text. -/
theorem exists_ofToken_image {picture : List (Value × Value)} {t : Text}
    (hname : typeName picture = "image")
    (hnodes : (ofTokens (Token.children picture)).result = .ok nodes)
    (ht : plainText (.list (Token.children picture)) = .ok t) :
    ∃ url title, (ofToken (.dict picture)).result
      = .ok [.leaf (.image url (.text t) title .null .null (.dict []))] := by
  have hrole : role picture
      = .ok (.image (attributes picture) (fieldOr "children" (.list []) picture)) :=
    role_of_typeName (by rw [hname]; rfl)
  rw [result_ofToken hrole (by rw [ofChildTokens_eq, hnodes]), Role.nodes, imageNode,
    plainText_children, ht]
  exact ⟨_, _, rfl⟩

/-- The node of a link has the nodes of the tokens in it. -/
theorem exists_ofToken_link {link : List (Value × Value)} (hname : typeName link = "link")
    (hnodes : (ofTokens (Token.children link)).result = .ok nodes) :
    ∃ url title, (ofToken (.dict link)).result = .ok [plain (.link url title) nodes] := by
  have hrole : role link = .ok (.branch (.link (fieldOr "url" (.text []) (attributes link))
      (fieldOr "title" .null (attributes link)))) :=
    role_of_typeName (by rw [hname]; rfl)
  rw [result_ofToken hrole (by rw [ofChildTokens_eq, hnodes])]
  exact ⟨_, _, rfl⟩

end Node

namespace Token

/-- **Plain text is flattened text.**  The loop over a stack ends within as many rounds as there are
tokens.  If the types of all mappings it meets can be looked up, it finds the flattening, and if one
cannot, that type is refused.  Inline tokens have nodes that say the same, so the alternative text
of an image is what a link with the same tokens in it says. -/
theorem plainText_flattens {tokens : List Value} (hraw : ∀ v ∈ tokens, HoldsTexts v) :
    (∀ n ≥ count tokens,
      Sweep.after n ⟨[], tokens.reverse⟩ = (do return ⟨← collect [] tokens, []⟩))
    ∧ ((∀ entries, IsMet tokens entries → hasKey entries = true) →
      plainText (.list tokens) = .ok (flatText tokens))
    ∧ ((∃ entries, IsMet tokens entries ∧ hasKey entries = false) →
      plainText (.list tokens) = .error .misuse)
    ∧ ((∀ v ∈ tokens, HasShape (typeName · ∈ inlineTypes) v) →
      plainText (.list tokens) = .ok (flatText tokens)
      ∧ ∃ nodes, (Node.ofTokens tokens).result = .ok nodes
        ∧ join (Node.allContents nodes) = .ok (flatText tokens)
        ∧ ∀ picture link, typeName picture = "image" → typeName link = "link" →
          children picture = tokens → children link = tokens →
          ∃ url title url' title',
            (Node.ofToken (.dict picture)).result
              = .ok [.leaf (.image url (.text (flatText tokens)) title .null .null (.dict []))]
            ∧ (Node.ofToken (.dict link)).result = .ok [.plain (.link url' title') nodes]) := by
  have hflat (hkeys : ∀ entries, IsMet tokens entries → hasKey entries = true) :
      plainText (.list tokens) = .ok (flatText tokens) := by
    obtain ⟨texts, htexts, hjoin⟩ := exists_flatten hraw hkeys
    rw [plainText_list, htexts]
    exact hjoin
  refine ⟨fun n hn => ?_, hflat, fun ⟨entries, hmet, hkey⟩ => ?_, fun hinline => ?_⟩
  · rw [Sweep.after_eq hn, collect_eq_flatten]
    simp only [bind_assoc, pure_bind, List.reverse_nil]
  · rw [plainText_list, flatten_eq_error hmet hkey]
    rfl
  · have hplain := hflat fun entries hmet =>
      isKey_of_inlineTypes (hmet.of_hasShape hinline) _
    obtain ⟨nodes, hnodes, t, ht, hjoin⟩ :=
      Node.isCarried_saysPlain.exists_ofTokens (fun _ h => h.isReadable)
        fun v hv => (hinline v hv).isInline (hraw v hv)
    obtain rfl := Except.ok.inj (ht.symm.trans hplain)
    refine ⟨hplain, nodes, hnodes, hjoin, fun picture link hpicture hlink hsame hsame' => ?_⟩
    subst hsame
    obtain ⟨url, title, himage⟩ := Node.exists_ofToken_image hpicture hnodes ht
    obtain ⟨url', title', hlinked⟩ := Node.exists_ofToken_link hlink (hsame' ▸ hnodes)
    exact ⟨url, title, url', title', himage, hlinked⟩

/-- A text in a strong token, a break and an image with a code span in it: the same as the text of a
link, as the alternative text of an image and as plain text. -/
theorem plainText_flattens_sample :
    let raw (type raw : Text) : Value := .dict [entry "type" (.text type), entry "raw" (.text raw)]
    let parent (type : Text) (items : List Value) : List (Value × Value) :=
      [entry "type" (.text type), entry "children" (.list items)]
    let tokens := [.dict (parent "strong" [raw "text" "a"]), raw "softbreak" "",
      .dict (parent "image" [raw "codespan" "b"])]
    (∀ v ∈ tokens, HoldsTexts v) ∧ (∀ v ∈ tokens, HasShape (typeName · ∈ inlineTypes) v)
      ∧ Sweep.after 5 ⟨[], tokens.reverse⟩ = (do return ⟨← collect [] tokens, []⟩)
      ∧ plainText (.list tokens) = .ok "a b"
      ∧ ∃ nodes, (Node.ofTokens tokens).result = .ok nodes
        ∧ join (Node.allContents nodes) = .ok "a b"
        ∧ ∃ url title url' title',
          (Node.ofToken (.dict (parent "image" tokens))).result
            = .ok [.leaf (.image url (.text "a b") title .null .null (.dict []))]
          ∧ (Node.ofToken (.dict (parent "link" tokens))).result
            = .ok [.plain (.link url' title') nodes] := by
  intro raw parent tokens
  have hraw (type t : Text) : HoldsTexts (raw type t) :=
    .token (fun _ => ⟨t, rfl⟩) (List.forall_mem_nil _)
  have hparent {type : Text} (htype : type ∉ textTypes) {items : List Value}
      (hitems : ∀ v ∈ items, HoldsTexts v) : HoldsTexts (.dict (parent type items)) :=
    .token (fun hname => absurd hname htype) hitems
  have htokens : ∀ v ∈ tokens, HoldsTexts v := List.forall_mem_cons.mpr
    ⟨hparent (by decide) (List.forall_mem_singleton.mpr (hraw _ _)), List.forall_mem_cons.mpr
      ⟨hraw _ _, List.forall_mem_singleton.mpr
        (hparent (by decide) (List.forall_mem_singleton.mpr (hraw _ _)))⟩⟩
  have hleaf {type : Text} (htype : type ∈ inlineTypes) (t : Text) :
      HasShape (typeName · ∈ inlineTypes) (raw type t) := .mk htype (List.forall_mem_nil _)
  have hinner {type : Text} (htype : type ∈ inlineTypes) {items : List Value}
      (hitems : ∀ v ∈ items, HasShape (typeName · ∈ inlineTypes) v) :
      HasShape (typeName · ∈ inlineTypes) (.dict (parent type items)) := .mk htype hitems
  have hinline : ∀ v ∈ tokens, HasShape (typeName · ∈ inlineTypes) v := List.forall_mem_cons.mpr
    ⟨hinner (by decide) (List.forall_mem_singleton.mpr (hleaf (by decide) _)),
      List.forall_mem_cons.mpr ⟨hleaf (by decide) _, List.forall_mem_singleton.mpr
        (hinner (by decide) (List.forall_mem_singleton.mpr (hleaf (by decide) _)))⟩⟩
  have hflat : flatText tokens = "a b" := by
    simp only [tokens, parent, raw]
    with_unfolding_all rfl
  have hcount : count tokens = 5 := by
    simp only [tokens, parent, raw]
    with_unfolding_all rfl
  obtain ⟨hends, -, -, hnodes⟩ := plainText_flattens htokens
  obtain ⟨hplain, nodes, hresult, hjoin, hsame⟩ := hnodes hinline
  rw [hflat] at hplain hjoin hsame
  exact ⟨htokens, hinline, hends 5 (Nat.le_of_eq hcount), hplain, nodes, hresult, hjoin,
    hsame (parent "image" tokens) (parent "link" tokens) rfl rfl rfl rfl⟩

/-- A type that is a list is refused, although the token with it has a text in it to flatten. -/
theorem plainText_of_listed_type :
    let token : Value := .dict [entry "type" (.list [.text "a"]), entry "children"
      (.list [.dict [entry "type" (.text "text"), entry "raw" (.text "x")]])]
    HoldsTexts token ∧ flatText [token] = "x" ∧ plainText (.list [token]) = .error .misuse := by
  intro token
  refine ⟨.token nofun (List.forall_mem_singleton.mpr
    (.token (fun _ => ⟨"x", rfl⟩) (List.forall_mem_nil _))), ?_, ?_⟩
  · simp only [token]
    with_unfolding_all rfl
  · rw [plainText_list, flatten_eq_error (.here List.mem_cons_self) rfl]
    rfl

end Token

end RichText
