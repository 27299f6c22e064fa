import RichText.Proofs.JsonForm
import RichText.Proofs.TreeJson
import RichText.Tree.Display

/-!
# Proofs/StoredTree — trees read back as trees that are displayed alike

    n ──toJson──▸ document ──ofJson──▸ m        m.displayed = n.displayed

What is not shown of a tree may be more than data: it has a JSON document, and is read back as
whatever the document says.  What is shown is data, and is read back as it is.  So a tree is read back as
one that is displayed alike (`Node.IsStorable.exists_toJson`), and if anything refuses its document, it is
the metadata of its root (`Node.toJson_document_eq_error`).
-/

namespace RichText

/-! ## Trees with a document -/

/-- A mapping with a JSON document. -/
def Value.IsJsonMapping (v : Value) : Prop := ∃ entries, v = dict entries ∧ v.HasJson

/-- What is shown of a branch is what its names promise, and the rest has a JSON document. -/
def Branch.IsStorable : Branch → Prop
  | heading level => ∃ i, level.int? = some i ∧ 1 ≤ i ∧ i ≤ 6
  | link url title => url.IsText ∧ title.HasJson
  | element tag attributes => tag.IsText ∧ attributes.IsJsonMapping
  | _ => True

/-- **A tree that can be stored**: what is shown of it is what its names promise, and the rest has a JSON
document. -/
inductive Node.IsStorable : Node → Prop
  | text {content metadata : Value} (hcontent : content.IsText) (hmetadata : metadata.IsJsonMapping) :
    IsStorable (leaf (.text content metadata))
  | image {url alt title width height metadata : Value} (hurl : url.IsText) (halt : alt.IsText)
    (htitle : title.HasJson) (hwidth : width.IsData) (hheight : height.IsData)
    (hmetadata : metadata.IsJsonMapping) :
    IsStorable (leaf (.image url alt title width height metadata))
  | branch {b : Branch} {children : List Node} {metadata : Value} (hb : b.IsStorable)
    (hchildren : ∀ c ∈ children, IsStorable c) (hmetadata : metadata.IsJsonMapping) :
    IsStorable (branch b children metadata)

theorem Branch.IsStorable.isPortable {b : Branch} (h : b.IsStorable) : b.IsPortable := by
  cases b with
  | element tag attributes =>
    obtain ⟨htag, entries, rfl, -⟩ := h
    exact ⟨htag, entries, rfl⟩
  | _ => trivial

theorem Node.IsStorable.isPortable {n : Node} (h : n.IsStorable) : n.IsPortable := by
  induction h with
  | text _ hmetadata =>
    obtain ⟨entries, rfl, -⟩ := hmetadata
    exact .text
  | image _ _ _ _ _ hmetadata =>
    obtain ⟨entries, rfl, -⟩ := hmetadata
    exact .image
  | branch hb _ hmetadata ih =>
    obtain ⟨entries, rfl, -⟩ := hmetadata
    exact .branch hb.isPortable ih

theorem Branch.IsStorable.check {b : Branch} (h : b.IsStorable) : b.check = .ok () := by
  cases b with
  | heading level => exact check_of_isTyped (b := heading level) h
  | _ => rfl

theorem Branch.IsStorable.isFilled {b : Branch} (h : b.IsStorable) : b.IsFilled := by
  cases b with
  | heading level => exact IsTyped.isFilled (b := heading level) h
  | link url title =>
    obtain ⟨⟨u, rfl⟩, -⟩ := h
    rfl
  | element tag attributes =>
    obtain ⟨⟨t, rfl⟩, -⟩ := h
    rfl
  | _ => trivial

/-- A tree that can be stored lacks nothing. -/
theorem Node.IsStorable.isLoaded {n : Node} (h : n.IsStorable) : n.IsLoaded := by
  induction h with
  | text hcontent _ =>
    obtain ⟨t, rfl⟩ := hcontent
    exact .leaf rfl
  | image hurl halt _ _ _ _ => exact .leaf (Leaf.isFilled_image hurl halt ..)
  | branch hb _ _ ih => exact .branch hb.isFilled hb.check ih

theorem Branch.childField_displayed (b : Branch) : b.displayed.childField = b.childField := by
  cases b <;> rfl

theorem Branch.nodeType_displayed (b : Branch) : b.displayed.nodeType = b.nodeType := by
  cases b <;> rfl

/-! ## Reading back -/

open Json

variable {layout : Indent} {depth : Nat}

/-- **A branch that is read back as another**, which lacks nothing and is displayed alike. -/
structure Branch.IsReadAs (layout : Indent) (depth : Nat) (b b' : Branch) : Prop where
  fields : List.Forall₂ (IsEntryReadAs layout depth) b.fields.entries b'.fields
  isFilled : b'.IsFilled
  check : b'.check = .ok ()
  displayed : b'.displayed = b.displayed

/-- **A tree that is read back as another**, which lacks nothing and is displayed alike. -/
structure Node.IsReadAs (layout : Indent) (depth : Nat) (n m : Node) : Prop where
  fields : List.Forall₂ (IsEntryReadAs layout depth) n.fields.entries m.fields
  isLoaded : m.IsLoaded
  displayed : m.displayed = n.displayed

section Layout

variable (hl : layout.IsBlank)

include hl

theorem isReadAs_of_isText {v : Value} (h : v.IsText) (depth : Nat) : Json.IsReadAs layout depth v v :=
  isReadAs_of_isData hl (Node.isData_of_isText h) depth

theorem Value.IsJsonMapping.exists_isReadAs {v : Value} (h : v.IsJsonMapping) (depth : Nat) :
    ∃ read, Json.IsReadAs layout depth v (.dict read) := by
  obtain ⟨entries, rfl, hentries⟩ := h
  exact exists_isReadAs_dict_of_hasJson hl hentries depth

/-- **A branch that can be stored is read back.** -/
theorem Branch.IsStorable.exists_isReadAs {b : Branch} (h : b.IsStorable) (depth : Nat) :
    ∃ b', b.IsReadAs layout depth b' := by
  have hbare (hnone : b.fields = []) (hfilled : b.IsFilled) (hcheck : b.check = .ok ()) :
      ∃ b', b.IsReadAs layout depth b' :=
    ⟨b, by rw [hnone]; exact .nil, hfilled, hcheck, rfl⟩
  cases b with
  | heading level =>
    have htyped : (heading level).IsTyped := h
    have hlevel := List.forall_mem_singleton.mp (Node.isData_branch_fields htyped)
    exact ⟨heading level, .cons ⟨rfl, isReadAs_of_isData hl hlevel depth⟩ .nil, h.isFilled, h.check,
      rfl⟩
  | link url title =>
    obtain ⟨hurl, htitle⟩ := h
    obtain ⟨read, hread⟩ := exists_isReadAs_of_hasJson hl htitle depth
    have hfields := isReadAs_of_isText hl hurl depth
    obtain ⟨u, rfl⟩ := hurl
    exact ⟨link (.text u) read, .cons ⟨rfl, hfields⟩ (.cons ⟨rfl, hread⟩ .nil), rfl, rfl, rfl⟩
  | element tag attributes =>
    obtain ⟨htag, hattributes⟩ := h
    obtain ⟨read, hread⟩ := hattributes.exists_isReadAs hl depth
    have hfields := isReadAs_of_isText hl htag depth
    obtain ⟨t, rfl⟩ := htag
    exact ⟨element (.text t) (.dict read), .cons ⟨rfl, hfields⟩ (.cons ⟨rfl, hread⟩ .nil), rfl, rfl,
      rfl⟩
  | _ => exact hbare rfl trivial rfl

namespace Node

/-- The mapping of a tree that is read back is read back as that of the other. -/
theorem IsReadAs.mapping {n m : Node} (h : n.IsReadAs layout (depth + 1) m) :
    Json.IsReadAs layout depth (.dict n.fields.entries) (.dict m.fields.entries) :=
  isReadAs_dict hl h.fields (nodup_names m).of_cons

/-- The mappings of children that are read back are read back one by one. -/
theorem isReadAs_mappings {children read : List Node}
    (h : List.Forall₂ (IsReadAs layout (depth + 2)) children read) :
    Json.IsReadAs layout depth (.list (mappings children)) (.list (mappings read)) := by
  refine isReadAs_list hl ?_
  induction h with
  | nil => exact .nil
  | cons hc _ ih => exact .cons (hc.mapping hl) ih

omit hl in
/-- Children that are read back lack nothing, and are displayed alike. -/
theorem forall₂_isReadAs {children read : List Node}
    (h : List.Forall₂ (IsReadAs layout depth) children read) :
    (∀ m ∈ read, m.IsLoaded) ∧ allDisplayed read = allDisplayed children := by
  induction h with
  | nil => exact ⟨List.forall_mem_nil _, rfl⟩
  | cons hc _ ih =>
    obtain ⟨hloaded, hdisplayed⟩ := ih
    refine ⟨List.forall_mem_cons.mpr ⟨hc.isLoaded, hloaded⟩, ?_⟩
    rw [allDisplayed, allDisplayed, hc.displayed, hdisplayed]

/-- A branch is read back with its children. -/
theorem isReadAs_branch {b b' : Branch} {children read : List Node} {metadata : Value}
    {entries : List (Value × Value)} (hb : b.IsReadAs layout (depth + 1) b')
    (hchildren : List.Forall₂ (IsReadAs layout (depth + 3)) children read)
    (hmetadata : Json.IsReadAs layout (depth + 1) metadata (.dict entries)) :
    (branch b children metadata).IsReadAs layout (depth + 1) (branch b' read (.dict entries)) := by
  have htype : b.nodeType = b'.nodeType := by
    rw [← b.nodeType_displayed, ← hb.displayed, b'.nodeType_displayed]
  have hname : b.childField = b'.childField := by
    rw [← b.childField_displayed, ← hb.displayed, b'.childField_displayed]
  obtain ⟨hloaded, hdisplayed⟩ := forall₂_isReadAs hchildren
  refine ⟨?_, .branch hb.isFilled hb.check hloaded, ?_⟩
  · have hown : (branch b children metadata).fields.entries
        = (.text "node_type", .text b'.nodeType) :: b.fields.entries
          ++ [(.text b'.childField, .list (mappings children)), (.text "metadata", metadata)] := by
      simp [fields, Fields.entries, htype, hname]
    rw [hown]
    exact List.rel_append (.cons ⟨rfl, isReadAs_of_isData hl (.text _) _⟩ hb.fields)
      (.cons ⟨rfl, isReadAs_mappings hl hchildren⟩ (.cons ⟨rfl, hmetadata⟩ .nil))
  · rw [displayed, displayed, hb.displayed, hdisplayed]

/-- **A tree that can be stored is read back as one that is displayed alike**, at every depth of a layout
of blanks. -/
theorem IsStorable.exists_isReadAs {n : Node} (h : n.IsStorable) (depth : Nat) :
    ∃ m, n.IsReadAs layout (depth + 1) m := by
  induction h generalizing depth with
  | text hcontent hmetadata =>
    obtain ⟨read, hread⟩ := hmetadata.exists_isReadAs hl (depth + 1)
    have hown := isReadAs_of_isText hl hcontent (depth + 1)
    obtain ⟨t, rfl⟩ := hcontent
    exact ⟨leaf (.text (.text t) (.dict read)), .cons ⟨rfl, isReadAs_of_isData hl (.text _) _⟩
      (.cons ⟨rfl, hown⟩ (.cons ⟨rfl, hread⟩ .nil)), .leaf rfl, rfl⟩
  | @image url alt title width height metadata hurl halt htitle hwidth hheight hmetadata =>
    obtain ⟨entries, hentries⟩ := hmetadata.exists_isReadAs hl (depth + 1)
    obtain ⟨read, hread⟩ := exists_isReadAs_of_hasJson hl htitle (depth + 1)
    refine ⟨leaf (.image url alt read width height (.dict entries)), ?_,
      .leaf (Leaf.isFilled_image hurl halt ..), rfl⟩
    exact .cons ⟨rfl, isReadAs_of_isData hl (.text _) _⟩
      (.cons ⟨rfl, isReadAs_of_isText hl hurl _⟩ (.cons ⟨rfl, isReadAs_of_isText hl halt _⟩
        (.cons ⟨rfl, hread⟩ (.cons ⟨rfl, isReadAs_of_isData hl hwidth _⟩
          (.cons ⟨rfl, isReadAs_of_isData hl hheight _⟩ (.cons ⟨rfl, hentries⟩ .nil))))))
  | branch hb _ hmetadata ih =>
    obtain ⟨b', hb'⟩ := hb.exists_isReadAs hl (depth + 1)
    obtain ⟨read, hread⟩ := exists_forall₂ fun c hc => ih c hc (depth + 2)
    obtain ⟨entries, hentries⟩ := hmetadata.exists_isReadAs hl (depth + 1)
    exact ⟨_, isReadAs_branch hl hb' hread hentries⟩

/-! ## Documents -/

/-- **A tree that can be stored has a document**, from which one that is displayed alike is read back. -/
theorem IsStorable.exists_toJson {n : Node} (h : n.IsStorable) :
    ∃ document m, n.toJson layout = .ok document ∧ m.displayed = n.displayed
      ∧ ∀ validate strict, ofJson validate strict document = pure m := by
  obtain ⟨m, hm⟩ := h.exists_isReadAs hl 0
  obtain ⟨document, hdocument, hread⟩ := exists_document hl h.isPortable hm.isLoaded hm.fields
  exact ⟨document, m, hdocument, hm.displayed, hread⟩

/-- **A document with metadata that cannot be written is refused for what the metadata is refused
for**, if its children can be stored. -/
theorem toJson_document_eq_error {children : List Node} {metadata : List (Value × Value)}
    (h : ∀ c ∈ children, c.IsStorable) {why : WriteError}
    (hmetadata : writeAt layout 1 (.dict metadata) = .error why) :
    (branch .document children (.dict metadata)).toJson layout = .error why.toFailure := by
  obtain ⟨read, hread⟩ := exists_forall₂ fun c hc => (h c hc).exists_isReadAs hl 2
  obtain ⟨version, hversion, -⟩ := isReadAs_of_isData hl isData_schemaVersion 1
  obtain ⟨type, htype, -⟩ := isReadAs_of_isData hl (.text Branch.document.nodeType) 1
  obtain ⟨items, hitems, -⟩ := isReadAs_mappings hl hread
  have hentries : writeEntries layout 1 [entry "schema_version" (.int schemaVersion),
      entry "node_type" (.text Branch.document.nodeType),
      entry "children" (.list (mappings children)), entry "metadata" (.dict metadata)]
      = .error why := by
    simp only [entry, writeEntries, writeKey, hversion, htype, hitems, hmetadata]
    rfl
  have hportable : (branch .document children (.dict metadata)).IsPortable :=
    .branch trivial fun c hc => (h c hc).isPortable
  rw [toJson_eq hportable, write]
  exact congrArg (Except.mapError WriteError.toFailure) (writeAt_dict_eq_error hentries)

end Node

end Layout

end RichText
