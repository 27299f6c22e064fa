import RichText.Proofs.TreeDict

/-!
# Proofs/TreeJson — typed trees read back from their JSON documents

    n ──toDict──▸ fields ──write──▸ document ──read──▸ fields ──ofDict──▸ n

The mapping of a typed tree is data, but for the sizes of its images, which no bound is set on.
Where all of them fit (`Node.SizesFit`) the document is written and read back; where one does not,
it is the digit limit that refuses the document, and nothing else does (`Node.toJson_eq_error`).  An
indent asks for a layout if it can be counted (`Json.IsIndent`).
-/

namespace RichText

namespace Node

/-! ## Sizes of images -/

mutual

/-- The widths and heights of the images of a tree. -/
def sizes : Node → List Value
  | leaf (.image _ _ _ width height _) => [width, height]
  | leaf _ => []
  | branch _ children _ => allSizes children
  | misfilled _ _ _ => []

def allSizes : List Node → List Value
  | [] => []
  | n :: rest => sizes n ++ allSizes rest

end

/-- The sizes of all images are within the digit limit. -/
def SizesFit (n : Node) : Prop := ∀ v ∈ n.sizes, ∀ i, v.int? = some i → Text.IsShort i

theorem mem_allSizes {v : Value} {children : List Node} :
    v ∈ allSizes children ↔ ∃ c ∈ children, v ∈ c.sizes := by
  induction children with
  | nil => simp [allSizes]
  | cons c rest ih => simp [allSizes, ih]

theorem sizesFit_branch {b : Branch} {children : List Node} {metadata : Value} :
    (branch b children metadata).SizesFit ↔ ∀ c ∈ children, c.SizesFit := by
  constructor
  · exact fun h c hc v hv => h v (mem_allSizes.mpr ⟨c, hc, hv⟩)
  · intro h v hv
    obtain ⟨c, hc, hv⟩ := mem_allSizes.mp hv
    exact h c hc v hv

/-! ## The mapping of a typed tree is data -/

theorem isData_of_isText {v : Value} (h : v.IsText) : v.IsData := by
  obtain ⟨t, rfl⟩ := h
  exact .text t

theorem isData_of_isMapping {v : Value} (h : v.IsMapping) : v.IsData := by
  obtain ⟨_, -, hv⟩ := h
  exact hv

theorem isData_of_int? {v : Value} {i : Int} (h : v.int? = some i) (hi : Text.IsShort i) :
    v.IsData := by
  cases v with
  | int j =>
    obtain rfl : j = i := Option.some.inj h
    exact .int hi
  | bool b => exact .bool b
  | _ => cases h

theorem isData_of_eq_null_or {v : Value} {p : Prop} (h : v = .null ∨ p) (hp : p → v.IsData) :
    v.IsData := by
  obtain rfl | h := h
  · exact .null
  · exact hp h

theorem isData_branch_fields {b : Branch} (h : b.IsTyped) : ∀ f ∈ b.fields, f.2.IsData := by
  cases b with
  | heading level =>
    obtain ⟨i, hi, hlow, hhigh⟩ := h
    have hshort : Text.IsShort i := Text.isShort_of_natAbs_lt_ten (by omega)
    exact List.forall_mem_singleton.mpr (isData_of_int? hi hshort)
  | link url title =>
    obtain ⟨hurl, htitle⟩ := h
    exact List.forall_mem_cons.mpr ⟨isData_of_isText hurl,
      List.forall_mem_singleton.mpr (isData_of_eq_null_or htitle isData_of_isText)⟩
  | element tag attributes =>
    obtain ⟨htag, hattributes⟩ := h
    exact List.forall_mem_cons.mpr ⟨isData_of_isText htag,
      List.forall_mem_singleton.mpr (isData_of_isMapping hattributes)⟩
  | _ => exact List.forall_mem_nil _

/-- No name occurs twice in the document of a tree. -/
theorem nodup_names (n : Node) : (("schema_version" : Text) :: n.fields.names).Nodup := by
  cases n with
  | leaf l => cases l <;> exact of_decide_eq_true rfl
  | branch b children metadata => cases b <;> exact of_decide_eq_true rfl
  | misfilled b value metadata => exact of_decide_eq_true rfl

section Fields

variable {P : Value → Prop} (hdata : ∀ {v : Value}, v.IsData → P v)

include hdata

/-- What holds of data and of both sizes holds of every field of an image. -/
theorem forall_mem_fields_image {url alt title width height metadata : Value}
    (h : (leaf (.image url alt title width height metadata)).IsTyped) (hwidth : P width)
    (hheight : P height) :
    ∀ f ∈ fields (leaf (.image url alt title width height metadata)), P f.2 := by
  cases h with
  | image hurl halt htitle _ _ hmetadata =>
    simp only [fields, Leaf.fields, List.forall_mem_cons]
    exact ⟨hdata (.text _), hdata (isData_of_isText hurl), hdata (isData_of_isText halt),
      hdata (isData_of_eq_null_or htitle isData_of_isText), hwidth, hheight,
      hdata (isData_of_isMapping hmetadata), List.forall_mem_nil _⟩

/-- What holds of data and of the list of children holds of every field of a branch. -/
theorem forall_mem_fields_branch {b : Branch} {children : List Node} {metadata : Value}
    (h : (branch b children metadata).IsTyped) (hchildren : P (.list (mappings children))) :
    ∀ f ∈ fields (branch b children metadata), P f.2 := by
  cases h with
  | branch hb _ hmetadata =>
    simp only [fields, List.cons_append, List.forall_mem_cons, List.forall_mem_append]
    exact ⟨hdata (.text _), fun f hf => hdata (isData_branch_fields hb f hf), hchildren,
      hdata (isData_of_isMapping hmetadata), List.forall_mem_nil _⟩

end Fields

/-- **The mapping of a typed tree is data**, if the sizes of its images fit. -/
theorem isData_fields {n : Node} (h : n.IsTyped) (hs : n.SizesFit) :
    ∀ f ∈ n.fields, f.2.IsData := by
  induction h with
  | text hcontent hmetadata =>
    simp only [fields, Leaf.fields, List.forall_mem_cons]
    exact ⟨.text _, isData_of_isText hcontent, isData_of_isMapping hmetadata,
      List.forall_mem_nil _⟩
  | @image url alt title width height metadata hurl halt htitle hwidth hheight hmetadata =>
    have hsize : ∀ v ∈ [width, height], v = .null ∨ v.IsInt → v.IsData := by
      rintro v hv (rfl | ⟨i, hi⟩)
      · exact .null
      · exact isData_of_int? hi (hs v hv i hi)
    exact forall_mem_fields_image id (.image hurl halt htitle hwidth hheight hmetadata)
      (hsize width (by simp) hwidth) (hsize height (by simp) hheight)
  | @branch b children metadata hb hchildren hmetadata ih =>
    refine forall_mem_fields_branch id (.branch hb hchildren hmetadata) (.list fun v hv => ?_)
    obtain ⟨c, hc, rfl⟩ := mem_mappings.mp hv
    exact .dict (nodup_names c).of_cons (ih c hc (sizesFit_branch.mp hs c hc))

theorem isData_mapping {n : Node} (h : n.IsTyped) (hs : n.SizesFit) :
    (Value.dict n.fields.entries).IsData :=
  .dict (nodup_names n).of_cons (isData_fields h hs)

/-! ## Documents -/

open Json in
/-- The document of a tree has the version of the schema in front. -/
theorem toJson_eq {n : Node} (h : n.IsPortable) (layout : Indent) :
    n.toJson layout
      = (write layout (.dict (Fields.entries (("schema_version", .int schemaVersion) :: n.fields)))
        ).mapError WriteError.toFailure := by
  rw [toJson, toDict_of_isPortable h, Fields.entries_cons]
  dsimp only [bind, Except.bind]
  rw [entry]

/-- What no name names is not found. -/
theorem field?_entries_eq_none {name : Text} {fields : Fields} (h : name ∉ fields.names) :
    Value.field? name fields.entries = none := by
  induction fields with
  | nil => rfl
  | cons f rest ih =>
    obtain ⟨hf, hrest⟩ := not_or.mp (mt List.mem_cons.mpr h)
    rw [Fields.entries_cons, Value.field?, if_neg (Ne.symm hf)]
    exact ih hrest

theorem erase_entries {name : Text} {fields : Fields} (h : name ∉ fields.names) :
    Value.erase (.text name) fields.entries = fields.entries := by
  refine List.filter_eq_self.mpr fun e he => ?_
  obtain ⟨f, hf, rfl⟩ := List.mem_map.mp he
  have hne : f.1 ≠ name := fun heq => h (heq ▸ List.mem_map_of_mem hf)
  rw [Value.same, beq_eq_false_iff_ne.mpr hne]
  rfl

/-- The version in front of a document is the current one, and is taken off. -/
theorem ofDocument_eq {fields : Fields} (h : ("schema_version" : Text) ∉ fields.names)
    (validate strict : Bool) :
    ofDocument validate strict
        (.dict (Fields.entries (("schema_version", .int schemaVersion) :: fields)))
      = ofDict strict (.dict fields.entries) := by
  have herase : Value.erase "schema_version"
      (Fields.entries (("schema_version", .int schemaVersion) :: fields)) = fields.entries := by
    rw [Fields.entries_cons, Value.erase, List.filter_cons_of_neg]
    · exact erase_entries h
    · simp [Value.same]
  have hnote : noteVersion (some (.int schemaVersion)) = pure () :=
    if_pos (by simp [Value.same, Value.numEq, Value.int?])
  rw [ofDocument, herase]
  cases validate with
  | true => rfl
  | false =>
    show (noteVersion (some (.int schemaVersion)) >>= fun _ => _) = _
    rw [hnote]
    rfl

/-- A document without a version is read as one of the current version. -/
theorem ofJson_of_write {fields : Fields} (hdata : (Value.dict fields.entries).IsData)
    (hversion : ("schema_version" : Text) ∉ fields.names) {document : Text}
    (h : Json.write none (.dict fields.entries) = .ok document) (validate strict : Bool) :
    ofJson validate strict document = ofDict strict (.dict fields.entries) := by
  have hblank : Json.Indent.IsBlank none := by rintro _ ⟨⟩
  rw [ofJson, Json.read_of_write hblank hdata h]
  show ofDocument validate strict (.dict fields.entries) = _
  rw [ofDocument, field?_entries_eq_none hversion, erase_entries hversion]
  cases validate <;> rfl

theorem isData_schemaVersion : (Value.int schemaVersion).IsData :=
  .int (Text.isShort_of_natAbs_lt_ten (by decide))

section Layout

variable {layout : Json.Indent} (hl : layout.IsBlank)

include hl

open Json in
/-- **A tree whose fields are read back as those of another has a document**, from which the other is
read back, if that lacks nothing. -/
theorem exists_document {n m : Node} (h : n.IsPortable) (hm : m.IsLoaded)
    (hfields : List.Forall₂ (IsEntryReadAs layout 1) n.fields.entries m.fields) :
    ∃ document, n.toJson layout = .ok document
      ∧ ∀ validate strict, ofJson validate strict document = pure m := by
  have hversion : IsEntryReadAs layout 1 (.text "schema_version", .int schemaVersion)
      ("schema_version", .int schemaVersion) := ⟨rfl, isReadAs_of_isData hl isData_schemaVersion 1⟩
  obtain ⟨document, hwrite, hspell⟩ := isReadAs_dict hl (.cons hversion hfields) (nodup_names m)
  refine ⟨document, ?_, fun validate strict => ?_⟩
  · rw [toJson_eq h, Fields.entries_cons, write, hwrite]
    rfl
  · obtain ⟨hnone, -⟩ := List.nodup_cons.mp (nodup_names m)
    rw [ofJson, hspell.read_eq]
    exact (ofDocument_eq hnone validate strict).trans (ofDict_of_isLoaded hm strict)

/-- **A typed tree reads back from its document** in every layout of blanks, if the sizes of its
images fit. -/
theorem exists_toJson {n : Node} (h : n.IsTyped) (hs : n.SizesFit) :
    ∃ document, n.toJson layout = .ok document
      ∧ ∀ validate strict, ofJson validate strict document = pure n :=
  exists_document hl h.isPortable h.isLoaded (Json.forall₂_isEntryReadAs hl (isData_fields h hs) 1)

end Layout

/-! ## Sizes beyond the limit -/

section TooLong

open Json

variable {layout : Indent}

/-- A value that is written, or refused by the digit limit, at every depth. -/
def IsWritable (layout : Indent) (v : Value) : Prop :=
  ∀ depth, (∃ t, writeAt layout depth v = .ok t) ∨ writeAt layout depth v = .error .tooManyDigits

theorem IsWritable.of_isData (hl : layout.IsBlank) {v : Value} (h : v.IsData) :
    IsWritable layout v := fun depth => by
  obtain ⟨t, ht, -⟩ := isReadAs_of_isData hl h depth
  exact Or.inl ⟨t, ht⟩

/-- An integer beyond the limit is refused. -/
theorem writeAt_int_of_not_isShort {i : Int} (h : ¬ Text.IsShort i) (depth : Nat) :
    writeAt layout depth (.int i) = .error .tooManyDigits := by
  show writeInt i = _
  exact if_neg h

theorem IsWritable.of_isInt {v : Value} (h : v.IsInt) : IsWritable layout v := by
  obtain ⟨i, hi⟩ := h
  cases v with
  | int j =>
    intro depth
    by_cases hj : Text.IsShort j
    · exact Or.inl ⟨_, writeAt_int depth hj⟩
    · exact Or.inr (writeAt_int_of_not_isShort hj depth)
  | bool b => exact fun depth => Or.inl ⟨writeBool b, rfl⟩
  | _ => cases hi

/-- A size that does not fit is an integer beyond the limit. -/
theorem eq_int_of_not_isShort {v : Value} {i : Int} (h : v.int? = some i)
    (hi : ¬ Text.IsShort i) : v = .int i := by
  cases v with
  | int j => exact congrArg Value.int (Option.some.inj h)
  | bool b =>
    obtain rfl := Option.some.inj h
    exact absurd (Text.isShort_of_natAbs_lt_ten (by cases b <;> decide)) hi
  | _ => cases h

/-- A list is refused for an item that is. -/
theorem writeItems_eq_error {depth : Nat} {vs : List Value} (h : ∀ v ∈ vs, IsWritable layout v)
    {v : Value} (hv : v ∈ vs) (hbad : writeAt layout depth v = .error .tooManyDigits) :
    writeItems layout depth vs = .error .tooManyDigits := by
  induction vs with
  | nil => cases hv
  | cons w rest ih =>
    rw [writeItems]
    obtain ⟨t, ht⟩ | ht := h w List.mem_cons_self depth
    · obtain rfl | hv := List.mem_cons.mp hv
      · rw [hbad] at ht
        cases ht
      · rw [ht, ih (fun u hu => h u (List.mem_cons_of_mem w hu)) hv]
        rfl
    · rw [ht]
      rfl

/-- A mapping is refused for a value that is. -/
theorem writeEntries_eq_error {depth : Nat} {fields : Fields}
    (h : ∀ f ∈ fields, IsWritable layout f.2) {f : Text × Value} (hf : f ∈ fields)
    (hbad : writeAt layout depth f.2 = .error .tooManyDigits) :
    writeEntries layout depth fields.entries = .error .tooManyDigits := by
  induction fields with
  | nil => cases hf
  | cons g rest ih =>
    rw [Fields.entries_cons, writeEntries, writeKey]
    obtain ⟨t, ht⟩ | ht := h g List.mem_cons_self depth
    · obtain rfl | hf := List.mem_cons.mp hf
      · rw [hbad] at ht
        cases ht
      · rw [ht, ih (fun k hk => h k (List.mem_cons_of_mem g hk)) hf]
        rfl
    · rw [ht]
      rfl

theorem writeAt_list_eq_error {depth : Nat} {vs : List Value} {e : WriteError}
    (h : writeItems layout (depth + 1) vs = .error e) :
    writeAt layout depth (.list vs) = .error e := by
  rw [writeAt, h]
  rfl

theorem writeAt_dict_eq_error {depth : Nat} {entries : List (Value × Value)} {e : WriteError}
    (h : writeEntries layout (depth + 1) entries = .error e) :
    writeAt layout depth (.dict entries) = .error e := by
  rw [writeAt, h]
  rfl

/-- A size stands in a field of its image. -/
theorem exists_mem_fields_image (url alt title metadata : Value) {v width height : Value}
    (hv : v ∈ [width, height]) :
    ∃ name, (name, v) ∈ fields (leaf (.image url alt title width height metadata)) := by
  obtain rfl | hv := List.mem_cons.mp hv
  · exact ⟨"width", by simp [fields, Leaf.fields]⟩
  · obtain rfl := List.mem_singleton.mp hv
    exact ⟨"height", by simp [fields, Leaf.fields]⟩

section Refused

variable (hl : layout.IsBlank)

include hl

/-- An image is refused for a width or a height beyond the limit. -/
theorem writeEntries_image {url alt title width height metadata : Value}
    (h : (leaf (.image url alt title width height metadata)).IsTyped)
    (hs : ¬ (leaf (.image url alt title width height metadata)).SizesFit) (depth : Nat) :
    writeEntries layout depth (fields (leaf (.image url alt title width height metadata))).entries
      = .error .tooManyDigits := by
  have hsize : ∀ {v : Value}, v = .null ∨ v.IsInt → IsWritable layout v := fun hv =>
    hv.elim (fun hnull => .of_isData hl (hnull ▸ .null)) .of_isInt
  have hfields : ∀ f ∈ fields (leaf (.image url alt title width height metadata)),
      IsWritable layout f.2 := by
    cases h with
    | image hurl halt htitle hwidth hheight hmetadata =>
      exact forall_mem_fields_image (.of_isData hl)
        (.image hurl halt htitle hwidth hheight hmetadata) (hsize hwidth) (hsize hheight)
  obtain ⟨v, hv, i, hi, hlong⟩ : ∃ v ∈ [width, height], ∃ i, v.int? = some i
      ∧ ¬ Text.IsShort i := by
    simpa only [SizesFit, sizes, not_forall, exists_prop] using hs
  obtain rfl := eq_int_of_not_isShort hi hlong
  have hbad : writeAt layout depth (.int i) = .error .tooManyDigits :=
    writeAt_int_of_not_isShort hlong depth
  obtain ⟨name, hmem⟩ := exists_mem_fields_image url alt title metadata hv
  exact writeEntries_eq_error hfields hmem hbad

/-- A branch is refused for a child that is. -/
theorem writeEntries_branch {b : Branch} {children : List Node} {metadata : Value}
    (h : (branch b children metadata).IsTyped)
    (hs : ¬ (branch b children metadata).SizesFit)
    (ih : ∀ c ∈ children, ¬ c.SizesFit → ∀ depth,
      writeEntries layout depth c.fields.entries = .error .tooManyDigits) (depth : Nat) :
    writeEntries layout depth (fields (branch b children metadata)).entries
      = .error .tooManyDigits := by
  have hitems : ∀ v ∈ mappings children, IsWritable layout v := by
    intro v hv
    obtain ⟨c, hc, rfl⟩ := mem_mappings.mp hv
    by_cases hfit : c.SizesFit
    · cases h with
      | branch _ hchildren _ => exact .of_isData hl (isData_mapping (hchildren c hc) hfit)
    · exact fun depth => Or.inr (writeAt_dict_eq_error (ih c hc hfit (depth + 1)))
  obtain ⟨c, hc, hlong⟩ : ∃ c ∈ children, ¬ c.SizesFit := by
    simpa only [sizesFit_branch, not_forall, exists_prop] using hs
  have hbad : ∀ depth, writeAt layout depth (.list (mappings children))
      = .error .tooManyDigits := fun depth =>
    writeAt_list_eq_error (writeItems_eq_error hitems (mem_mappings.mpr ⟨c, hc, rfl⟩)
      (writeAt_dict_eq_error (ih c hc hlong (depth + 1 + 1))))
  have hmem : (b.childField, Value.list (mappings children))
      ∈ fields (branch b children metadata) := by simp [fields]
  exact writeEntries_eq_error
    (forall_mem_fields_branch (.of_isData hl) h fun depth => Or.inr (hbad depth)) hmem (hbad depth)

/-- **The mapping of a typed tree is refused** for a size beyond the digit limit. -/
theorem writeEntries_fields {n : Node} (h : n.IsTyped) (hs : ¬ n.SizesFit) (depth : Nat) :
    writeEntries layout depth n.fields.entries = .error .tooManyDigits := by
  induction h generalizing depth with
  | text _ _ => exact absurd (List.forall_mem_nil _) hs
  | image hurl halt htitle hwidth hheight hmetadata =>
    exact writeEntries_image hl (.image hurl halt htitle hwidth hheight hmetadata) hs depth
  | branch hb hchildren hmetadata ih =>
    exact writeEntries_branch hl (.branch hb hchildren hmetadata) hs ih depth

/-- A size beyond the digit limit, and nothing else, refuses the document of a typed tree. -/
theorem toJson_eq_error {n : Node} (h : n.IsTyped) (hs : ¬ n.SizesFit) :
    n.toJson layout = .error (.invalid .digitsWritten) := by
  have hversion : writeAt layout 1 (.int schemaVersion) = .ok (Text.ofInt schemaVersion) :=
    writeAt_int 1 (Text.isShort_of_natAbs_lt_ten (by decide))
  have hentries : writeEntries layout 1
      (Fields.entries (("schema_version", .int schemaVersion) :: n.fields))
        = .error .tooManyDigits := by
    rw [Fields.entries_cons, writeEntries, writeKey, hversion, writeEntries_fields hl h hs 1]
    rfl
  rw [toJson_eq h.isPortable, write, writeAt_dict_eq_error hentries]
  rfl

end Refused

end TooLong

end Node

/-! ## Indents -/

namespace Json

/-- **An indent**: none, or a number of blanks that can be counted. -/
def IsIndent (indent : Value) : Prop :=
  indent = .null ∨ ∃ i, indent.int? = some i ∧ isCount i = true

theorem indentOf_of_int? {indent : Value} {i : Int} (h : indent.int? = some i) :
    indentOf indent = if isCount i = true then .ok (some (List.replicate i.toNat (.char ' ')))
      else .error .overflow := by
  cases indent with
  | int j =>
    cases h
    rfl
  | bool b =>
    cases h
    rfl
  | _ => cases h

/-- An indent asks for a layout of blanks, or for none. -/
theorem exists_indentOf_eq {indent : Value} (h : IsIndent indent) :
    ∃ layout, indentOf indent = .ok layout ∧ layout.IsBlank := by
  obtain rfl | ⟨i, hi, hcount⟩ := h
  · exact ⟨none, rfl, fun unit hunit => nomatch hunit⟩
  · refine ⟨some (List.replicate i.toNat (.char ' ')), ?_, ?_⟩
    · rw [indentOf_of_int? hi, if_pos hcount]
    · rintro unit ⟨⟩ c hc
      rw [List.eq_of_mem_replicate hc]
      rfl

/-- A number of blanks that cannot be counted asks for none. -/
theorem indentOf_eq_error {indent : Value} (hint : indent = .null ∨ indent.IsInt)
    (h : ¬ IsIndent indent) : indentOf indent = .error .overflow := by
  obtain hnull | ⟨i, hi⟩ := hint
  · exact absurd (.inl hnull) h
  · rw [indentOf_of_int? hi, if_neg fun hcount => h (.inr ⟨i, hi, hcount⟩)]

end Json

namespace Node

/-! ## The round trip -/

/-- **A typed tree reads back** from its mapping, and from its document, checked or not, strictly or not,
without a notice.  The document is written for every indent that can be counted, if the sizes of images are
within the digit limit; everywhere else it is refused for the indent or for a size. -/
theorem json_round_trip {n : Node} (h : n.IsTyped) {indent : Value}
    (hindent : indent = .null ∨ indent.IsInt) (validate strict : Bool) :
    (∃ data, n.toDict = .ok data ∧ ofDict strict data = pure n)
      ∧ (¬ Json.IsIndent indent → Json.indentOf indent = .error .overflow)
      ∧ (Json.IsIndent indent → ∃ layout, Json.indentOf indent = .ok layout
        ∧ (n.SizesFit → ∃ document, n.toJson layout = .ok document
          ∧ ofJson validate strict document = pure n)
        ∧ (¬ n.SizesFit → n.toJson layout = .error (.invalid .digitsWritten))) := by
  refine ⟨⟨_, toDict_eq h, ofDict_fields h strict⟩, Json.indentOf_eq_error hindent, fun hcounted => ?_⟩
  obtain ⟨layout, hlayout, hl⟩ := Json.exists_indentOf_eq hcounted
  refine ⟨layout, hlayout, ?_, ?_⟩
  · intro hs
    obtain ⟨document, hdocument, hread⟩ := exists_toJson hl h hs
    exact ⟨document, hdocument, hread validate strict⟩
  · exact toJson_eq_error hl h

/-- A heading with a quotation mark and a surrogate half, and an image without a title. -/
theorem json_round_trip_sample :
    let root : Node := .branch .document
      [.branch (.heading (.int 2)) [.leaf (.text (.text [.char '"', .high 0]) (.dict []))]
        (.dict []),
        .leaf (.image (.text "u") (.text []) .null (.int 8) .null (.dict []))]
      (.dict [(.text "a", .list [.int (-1), .null])])
    ∃ document, root.toJson (some (List.replicate 2 (.char ' '))) = .ok document
      ∧ ofJson true true document = pure root := by
  intro root
  have hempty : (Value.dict []).IsMapping :=
    ⟨[], rfl, @Value.IsData.dict [] .nil (List.forall_mem_nil _)⟩
  have hlist : (Value.list [.int (-1), .null]).IsData :=
    .list (List.forall_mem_cons.mpr ⟨.int (Text.isShort_of_natAbs_lt_ten (by decide)),
      List.forall_mem_singleton.mpr .null⟩)
  have hmetadata : (Value.dict [(.text "a", .list [.int (-1), .null])]).IsMapping :=
    ⟨_, rfl, @Value.IsData.dict [("a", .list [.int (-1), .null])] (List.pairwise_singleton _ _)
      (List.forall_mem_singleton.mpr hlist)⟩
  have htyped : root.IsTyped := by
    refine .branch trivial
      (List.forall_mem_cons.mpr ⟨?_, List.forall_mem_singleton.mpr ?_⟩) hmetadata
    · refine .branch ⟨2, rfl, by decide, by decide⟩ (List.forall_mem_singleton.mpr ?_) hempty
      exact .text ⟨_, rfl⟩ hempty
    · exact .image ⟨_, rfl⟩ ⟨_, rfl⟩ (Or.inl rfl) (Or.inr ⟨8, rfl⟩) (Or.inl rfl) hempty
  have hfit : root.SizesFit := by
    refine List.forall_mem_cons.mpr ⟨?_, List.forall_mem_singleton.mpr fun i hi => nomatch hi⟩
    rintro i ⟨⟩
    exact Text.isShort_of_natAbs_lt_ten (by decide)
  have hindent : Value.int 2 = .null ∨ (Value.int 2).IsInt := .inr ⟨2, rfl⟩
  have hcounted : Json.IsIndent (.int 2) := .inr ⟨2, rfl, by decide⟩
  obtain ⟨-, -, hwritten⟩ := json_round_trip htyped hindent true true
  obtain ⟨layout, hlayout, hdocument, -⟩ := hwritten hcounted
  cases hlayout
  exact hdocument hfit

/-- **A typed tree may have no document**: an image whose width has one digit too many has none without an
indent, and no tree has one for an indent that is too far below zero. -/
theorem json_round_trip_refused :
    let wide : Node := .leaf (.image (.text "u") (.text []) .null
      (.int (Nat.pow 10 Text.digitLimit : Nat)) .null (.dict []))
    wide.IsTyped ∧ wide.toJson none = .error (.invalid .digitsWritten)
      ∧ Json.indentOf (.int (-0x8000000000000001)) = .error .overflow := by
  intro wide
  have hempty : (Value.dict []).IsMapping :=
    ⟨[], rfl, @Value.IsData.dict [] .nil (List.forall_mem_nil _)⟩
  have htyped : wide.IsTyped :=
    .image ⟨_, rfl⟩ ⟨_, rfl⟩ (Or.inl rfl) (Or.inr ⟨_, rfl⟩) (Or.inl rfl) hempty
  have hsizes : ¬ wide.SizesFit := fun hfit => Text.not_isShort_pow (Nat.le_refl Text.digitLimit)
    (hfit (.int (Nat.pow 10 Text.digitLimit : Nat)) List.mem_cons_self _ rfl)
  have hl : Json.Indent.IsBlank none := by rintro _ ⟨⟩
  refine ⟨htyped, toJson_eq_error hl htyped hsizes, ?_⟩
  rw [Json.indentOf_of_int? rfl, if_neg (by decide)]

end Node

end RichText
