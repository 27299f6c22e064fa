import RichText.Proofs.JsonValue
import RichText.Tree.Json

/-!
# Proofs/TreeDict — trees read back from their mappings

    n ──toDict──▸ {node_type, own fields, children, metadata} ──ofDict──▸ n

A tree is typed if its fields are what their names promise (`Node.IsTyped`).  Its mapping has the
named values `Node.fields`; the type is looked up first, then the own fields of the kind and then
the children, and every lookup finds what was stored (`Node.ofDict_fields`).  Writing takes mappings
where there are some (`Node.HasMappings`), and reading takes that nothing is missing
(`Node.IsLoaded`).
-/

namespace RichText

/-! ## Typed trees -/

namespace Value

def IsText (v : Value) : Prop := ∃ t, v = text t

/-- An integer or a truth value, which counts as one. -/
def IsInt (v : Value) : Prop := ∃ i, v.int? = some i

/-- A mapping of data. -/
def IsMapping (v : Value) : Prop := ∃ entries, v = dict entries ∧ v.IsData

end Value

/-- The fields of a branch are what their names promise. -/
def Branch.IsTyped : Branch → Prop
  | heading level => ∃ i, level.int? = some i ∧ 1 ≤ i ∧ i ≤ 6
  | link url title => url.IsText ∧ (title = .null ∨ title.IsText)
  | element tag attributes => tag.IsText ∧ attributes.IsMapping
  | _ => True

/-- **A typed tree**: its nodes are of the known kinds, and their fields are what their names
promise. -/
inductive Node.IsTyped : Node → Prop
  | text {content metadata : Value} (hcontent : content.IsText) (hmetadata : metadata.IsMapping) :
    IsTyped (leaf (.text content metadata))
  | image {url alt title width height metadata : Value} (hurl : url.IsText) (halt : alt.IsText)
    (htitle : title = .null ∨ title.IsText) (hwidth : width = .null ∨ width.IsInt)
    (hheight : height = .null ∨ height.IsInt) (hmetadata : metadata.IsMapping) :
    IsTyped (leaf (.image url alt title width height metadata))
  | branch {b : Branch} {children : List Node} {metadata : Value} (hb : b.IsTyped)
    (hchildren : ∀ c ∈ children, IsTyped c) (hmetadata : metadata.IsMapping) :
    IsTyped (branch b children metadata)

/-- The tag of an element is a text, and its attributes are a mapping. -/
def Branch.IsPortable : Branch → Prop
  | element tag attributes => tag.IsText ∧ ∃ entries, attributes = .dict entries
  | _ => True

/-- **A tree that can be written as a mapping**: its nodes are of the known kinds, with mappings where
they have any. -/
inductive Node.IsPortable : Node → Prop
  | text {content : Value} {metadata : List (Value × Value)} :
    IsPortable (leaf (.text content (.dict metadata)))
  | image {url alt title width height : Value} {metadata : List (Value × Value)} :
    IsPortable (leaf (.image url alt title width height (.dict metadata)))
  | branch {b : Branch} {children : List Node} {metadata : List (Value × Value)}
    (hb : b.IsPortable) (hchildren : ∀ c ∈ children, IsPortable c) :
    IsPortable (branch b children (.dict metadata))

theorem Branch.IsTyped.isPortable {b : Branch} (h : b.IsTyped) : b.IsPortable := by
  cases b with
  | element tag attributes =>
    obtain ⟨htag, entries, rfl, -⟩ := h
    exact ⟨htag, entries, rfl⟩
  | _ => trivial

theorem Node.IsTyped.isPortable {n : Node} (h : n.IsTyped) : n.IsPortable := by
  induction h with
  | text _ hmetadata =>
    obtain ⟨entries, rfl, -⟩ := hmetadata
    exact .text
  | image _ _ _ _ _ hmetadata =>
    obtain ⟨entries, rfl, -⟩ := hmetadata
    exact .image
  | branch hb _ hmetadata ih =>
    obtain ⟨entries, rfl, -⟩ := hmetadata
    exact .branch hb.isPortable ih

/-- The attributes of an element are a mapping. -/
def Branch.HasMappings : Branch → Prop
  | element _ attributes => ∃ entries, attributes = .dict entries
  | _ => True

/-- **A tree with mappings where it has any**, of nodes of the known kinds. -/
inductive Node.HasMappings : Node → Prop
  | text {content : Value} {metadata : List (Value × Value)} :
    HasMappings (leaf (.text content (.dict metadata)))
  | image {url alt title width height : Value} {metadata : List (Value × Value)} :
    HasMappings (leaf (.image url alt title width height (.dict metadata)))
  | branch {b : Branch} {children : List Node} {metadata : List (Value × Value)}
    (hb : b.HasMappings) (hchildren : ∀ c ∈ children, HasMappings c) :
    HasMappings (branch b children (.dict metadata))

theorem Branch.IsPortable.hasMappings {b : Branch} (h : b.IsPortable) : b.HasMappings := by
  cases b with
  | element tag attributes => exact h.2
  | _ => trivial

theorem Node.IsPortable.hasMappings {n : Node} (h : n.IsPortable) : n.HasMappings := by
  induction h with
  | text => exact .text
  | image => exact .image
  | branch hb _ ih => exact .branch hb.hasMappings ih

/-- What a leaf needs is there, and an image has an alternative text, which may be empty. -/
def Leaf.IsFilled : Leaf → Prop
  | text content _ => content.isNull = false
  | image url alt _ _ _ _ => url.isNull = false ∧ (alt.truthy = true ∨ alt = .text [])
  | _ => False

/-- What a branch needs is there. -/
def Branch.IsFilled : Branch → Prop
  | heading level => level.isNull = false
  | link url _ => url.isNull = false
  | element tag _ => tag.isNull = false
  | _ => True

/-- **A tree as reading makes it**: nothing is missing, and all of it has been checked. -/
inductive Node.IsLoaded : Node → Prop
  | leaf {l : Leaf} (h : l.IsFilled) : IsLoaded (leaf l)
  | branch {b : Branch} {children : List Node} {metadata : Value} (hb : b.IsFilled)
    (hcheck : b.check = .ok ()) (hchildren : ∀ c ∈ children, IsLoaded c) :
    IsLoaded (branch b children metadata)

/-- A level from one to six passes the check. -/
theorem Branch.check_of_isTyped {b : Branch} (h : b.IsTyped) : b.check = .ok () := by
  cases b with
  | heading level =>
    obtain ⟨i, hi, hlow, hhigh⟩ := h
    cases level with
    | int j => simp [Branch.check, Branch.checkLevel, hi, hlow, hhigh]
    | bool c => simp [Branch.check, Branch.checkLevel, hi, hlow, hhigh]
    | _ => cases hi
  | _ => rfl

theorem Branch.IsTyped.isFilled {b : Branch} (h : b.IsTyped) : b.IsFilled := by
  cases b with
  | heading level =>
    obtain ⟨i, hi, -⟩ := h
    cases level with
    | null => cases hi
    | _ => rfl
  | link url title =>
    obtain ⟨⟨t, rfl⟩, -⟩ := h
    rfl
  | element tag attributes =>
    obtain ⟨⟨t, rfl⟩, -⟩ := h
    rfl
  | _ => trivial

/-- An image with texts for its URL and its alternative text lacks nothing. -/
theorem Leaf.isFilled_image {url alt : Value} (hurl : url.IsText) (halt : alt.IsText)
    (title width height metadata : Value) : (image url alt title width height metadata).IsFilled := by
  obtain ⟨u, rfl⟩ := hurl
  obtain ⟨t, rfl⟩ := halt
  refine ⟨rfl, ?_⟩
  cases t with
  | nil => exact .inr rfl
  | cons c rest => exact .inl rfl

theorem Node.IsTyped.isLoaded {n : Node} (h : n.IsTyped) : n.IsLoaded := by
  induction h with
  | text hcontent _ =>
    obtain ⟨t, rfl⟩ := hcontent
    exact .leaf rfl
  | image hurl halt _ _ _ _ => exact .leaf (Leaf.isFilled_image hurl halt ..)
  | branch hb _ _ ih => exact .branch hb.isFilled (Branch.check_of_isTyped hb) ih

/-! ## The mapping of a typed tree -/

/-- The fields of a branch that stand before its children. -/
def Branch.fields : Branch → Fields
  | heading level => [("level", level)]
  | link url title => [("url", url), ("title", title)]
  | element tag attributes => [("tag", tag), ("attributes", attributes)]
  | _ => []

/-- The fields of a leaf. -/
def Leaf.fields : Leaf → Fields
  | text content metadata => [("node_type", "text"), ("content", content), ("metadata", metadata)]
  | image url alt title width height metadata =>
    [("node_type", "image"), ("url", url), ("alt_text", alt), ("title", title), ("width", width),
      ("height", height), ("metadata", metadata)]
  | _ => []

namespace Node

mutual

/-- The fields of the mapping of a typed tree. -/
def fields : Node → Fields
  | leaf l => l.fields
  | branch b children metadata =>
    (("node_type", .text b.nodeType) : Text × Value) :: b.fields
      ++ [(b.childField, .list (mappings children)), ("metadata", metadata)]
  | misfilled _ _ _ => []

/-- The mappings of typed trees. -/
def mappings : List Node → List Value
  | [] => []
  | n :: rest => .dict (fields n).entries :: mappings rest

end

theorem mem_mappings {v : Value} {children : List Node} :
    v ∈ mappings children ↔ ∃ c ∈ children, v = .dict c.fields.entries := by
  induction children with
  | nil => simp [mappings]
  | cons c rest ih => simp [mappings, ih]

theorem toDicts_eq {children : List Node}
    (h : ∀ c ∈ children, c.toDict = .ok (.dict c.fields.entries)) :
    toDicts children = .ok (mappings children) := by
  induction children with
  | nil => rfl
  | cons c rest ih =>
    rw [toDicts, h c List.mem_cons_self, ih fun d hd => h d (List.mem_cons_of_mem c hd)]
    rfl

theorem fieldEntries_eq {b : Branch} (h : b.HasMappings) :
    b.fieldEntries = .ok b.fields.entries := by
  cases b with
  | element tag attributes =>
    obtain ⟨entries, rfl⟩ := h
    rfl
  | _ => rfl

/-- **The mapping of a tree that can be written as one** has its fields. -/
theorem toDict_of_hasMappings {n : Node} (h : n.HasMappings) :
    n.toDict = .ok (.dict n.fields.entries) := by
  induction h with
  | text => rfl
  | image => rfl
  | @branch b children metadata hb _ ih =>
    rw [toDict, fieldEntries_eq hb, toDicts_eq ih, fields]
    simp [Branch.toDict, Fields.entries, entry, bind, Except.bind, pure, Except.pure]

theorem toDict_of_isPortable {n : Node} (h : n.IsPortable) :
    n.toDict = .ok (.dict n.fields.entries) :=
  toDict_of_hasMappings h.hasMappings

/-- **The mapping of a typed tree** has its fields. -/
theorem toDict_eq {n : Node} (h : n.IsTyped) : n.toDict = .ok (.dict n.fields.entries) :=
  toDict_of_isPortable h.isPortable

/-! ## Reading it back -/

variable {strict : Bool}

theorem ofDict_leaf {entries : List (Value × Value)} {l : Leaf}
    (h : outline strict entries = pure (.leaf l)) :
    ofDict strict (.dict entries) = pure (leaf l) := by
  rw [ofDict, h]
  rfl

theorem ofDict_branch {entries : List (Value × Value)} {b : Branch} {metadata : Value}
    {items : List Value} {children : List Node}
    (h : outline strict entries = pure (.branch b metadata))
    (hfield : Value.field? b.childField entries = some (.list items))
    (hitems : ofDicts strict items = pure children) (hcheck : b.check = .ok ()) :
    ofDict strict (.dict entries) = pure (branch b children metadata) := by
  rw [ofDict, h, pure_bind]
  dsimp only
  split
  · next heq => rw [heq] at hfield; cases hfield
  · next v heq =>
    obtain rfl : v = .list items := Option.some.inj (heq.symm.trans hfield)
    rw [ofChildren, hitems, hcheck]
    rfl

theorem ofDicts_mappings {children : List Node}
    (h : ∀ c ∈ children, ofDict strict (.dict c.fields.entries) = pure c) :
    ofDicts strict (mappings children) = pure children := by
  induction children with
  | nil => rw [mappings, ofDicts]
  | cons c rest ih =>
    rw [mappings, ofDicts, h c List.mem_cons_self, ih fun d hd => h d (List.mem_cons_of_mem c hd)]
    rfl

/-- What is looked up in the mapping of a leaf is what was stored in it. -/
theorem outline_leaf {l : Leaf} (h : l.IsFilled) :
    outline strict l.fields.entries = pure (.leaf l) := by
  cases l with
  | text content metadata => cases content <;> first | rfl | cases h
  | image url alt title width height metadata =>
    obtain ⟨hurl, halt⟩ := h
    -- An empty alternative text counts as missing, and a missing one is read as empty.
    have hagain : (if alt.truthy then alt else .text []) = alt := by
      obtain halt | rfl := halt
      · exact if_pos halt
      · rfl
    have houtline : outline strict (Leaf.image url alt title width height metadata).fields.entries
        = pure (.leaf (.image url (if alt.truthy then alt else .text []) title width height
          metadata)) := by
      cases url <;> first | rfl | cases hurl
    rw [houtline, hagain]
  | foreign name => exact h.elim
  | stray v => exact h.elim

/-- What is looked up in the mapping of a branch is what was stored in it. -/
theorem outline_branch {b : Branch} (h : b.IsFilled) (children : List Node) (metadata : Value) :
    outline strict (fields (branch b children metadata)).entries
      = pure (.branch b metadata) := by
  cases b with
  | heading level => cases level <;> first | rfl | cases h
  | link url title => cases url <;> first | rfl | cases h
  | element tag attributes => cases tag <;> first | rfl | cases h
  | _ => rfl

theorem field?_childField (b : Branch) (children : List Node) (metadata : Value) :
    Value.field? b.childField (fields (branch b children metadata)).entries
      = some (.list (mappings children)) := by
  cases b <;> rfl

/-- **A tree reads back from its fields** if nothing is missing, without a notice. -/
theorem ofDict_of_isLoaded {n : Node} (h : n.IsLoaded) (strict : Bool) :
    ofDict strict (.dict n.fields.entries) = pure n := by
  induction h with
  | leaf h => exact ofDict_leaf (outline_leaf h)
  | @branch b children metadata hb hcheck _ ih =>
    exact ofDict_branch (outline_branch hb children metadata)
      (field?_childField b children metadata) (ofDicts_mappings ih) hcheck

/-- **A typed tree reads back from its mapping**, without a notice. -/
theorem ofDict_fields {n : Node} (h : n.IsTyped) (strict : Bool) :
    ofDict strict (.dict n.fields.entries) = pure n :=
  ofDict_of_isLoaded h.isLoaded strict

end Node

end RichText
