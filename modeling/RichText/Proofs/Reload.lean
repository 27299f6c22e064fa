import RichText.Proofs.Draft
import RichText.Proofs.Missing

/-!
# Proofs/Reload — what is missing when a tree is loaded and when it is rendered

    n ──toDict──▸ fields ──ofDict──▸ n.loaded        the first gap, parents before their children
    n ──render──▸ text                               the first gap, children before their parents

Reading a mapping looks for what a node needs before it reads the children, and rendering looks for
it behind them.  Which gap is reported may differ; whether one is does not
(`Conversion.reload_missing`).
-/

namespace RichText

/-! ## What is read has no gaps -/

namespace Node

/-- What was asked for is there. -/
theorem isNull_of_required {kind name : Text} {entries : List (Value × Value)} {v : Value}
    (h : required kind name entries = .ok v) : v.isNull = false := by
  rw [required] at h
  split at h
  · cases h
  · cases h
  · next w hnull _ =>
    cases h
    cases v with
    | null => exact absurd rfl hnull
    | _ => rfl

end Node

namespace Outline

/-- What an outline needs is there. -/
def IsFilled : Outline → Prop
  | leaf l => l.IsFilled
  | branch b _ => b.IsFilled

/-- What is found needs nothing more, if it is an outline. -/
def GivesFilled (found : Option (Except Failure Outline)) : Prop :=
  ∀ shape, found = some (.ok shape) → shape.IsFilled

theorem givesFilled_none : GivesFilled none := fun _ h => nomatch h

theorem givesFilled_of_isFilled {shape : Outline} (h : shape.IsFilled) :
    GivesFilled (some (.ok shape)) := by
  rintro _ ⟨⟩
  exact h

/-- What is made of a value that has to be there needs nothing more, if it needs that value alone. -/
theorem givesFilled_of_required {kind name : Text} {entries : List (Value × Value)}
    {f : Value → Outline} (h : ∀ v, v.isNull = false → (f v).IsFilled) :
    GivesFilled (some do return f (← Node.required kind name entries)) := by
  intro shape hshape
  obtain ⟨v, hv, hv'⟩ := except_bind_eq_ok.mp (Option.some.inj hshape)
  cases hv'
  exact h v (Node.isNull_of_required hv)

end Outline

namespace Node

variable {strict : Bool}

theorem isNull_of_truthy {v : Value} (h : v.truthy = true) : v.isNull = false := by
  cases v with
  | null => cases h
  | _ => rfl

/-- A missing alternative text is read as an empty one. -/
theorem altText_cases (entries : List (Value × Value)) :
    (altText entries).truthy = true ∨ altText entries = .text [] := by
  rw [altText]
  split
  · next h => exact .inl h
  · exact .inr rfl

open Outline in
theorem givesFilled_outline? (type : Text) (entries : List (Value × Value)) :
    GivesFilled (outline? type entries) := by
  rw [outline?]
  -- The types are told apart by their names, one after the other.
  repeat' refine iteInduction (motive := GivesFilled) (fun _ => ?_) fun _ => ?_
  all_goals first
    | exact givesFilled_none
    | exact givesFilled_of_isFilled trivial
    | exact givesFilled_of_required fun v hv => hv
    | exact givesFilled_of_required fun v hv => ⟨hv, altText_cases entries⟩

/-- **An outline that is read needs nothing more**, of whatever type it is. -/
theorem isFilled_of_outline {entries : List (Value × Value)} {shape : Outline}
    (h : (outline strict entries).result = .ok shape) : shape.IsFilled := by
  rw [outline] at h
  split at h
  · cases h
  next htruthy =>
  split at h
  · cases h
  split at h
  · next known hknown =>
    obtain ⟨t, -, ht⟩ := Option.bind_eq_some_iff.mp hknown
    obtain rfl : known = .ok shape := h
    exact givesFilled_outline? t entries shape ht
  · split at h
    · cases h
    · cases h
      exact isNull_of_truthy (by simpa using htruthy)

theorem exists_dict_of_ofDict {data : Value} {n : Node} (h : (ofDict strict data).result = .ok n) :
    ∃ entries, data = .dict entries := by
  rw [ofDict.eq_def] at h
  split at h
  · exact ⟨_, rfl⟩
  · cases h

mutual

/-- **A tree that is read is one that reading makes.** -/
theorem isLoaded_of_ofDict {data : Value} {n : Node} (h : (ofDict strict data).result = .ok n) :
    n.IsLoaded := by
  obtain ⟨entries, rfl⟩ := exists_dict_of_ofDict h
  rw [ofDict_dict] at h
  obtain ⟨shape, hshape, h⟩ := Outcome.result_bind_eq_ok.mp h
  have hfilled := isFilled_of_outline hshape
  cases shape with
  | leaf l =>
    cases h
    exact .leaf hfilled
  | branch b metadata =>
    obtain ⟨children, hchildren, h⟩ := Outcome.result_bind_eq_ok.mp h
    obtain ⟨⟨⟩, hcheck, h⟩ := Outcome.result_bind_eq_ok.mp h
    cases h
    refine .branch hfilled hcheck ?_
    cases hfield : Value.field? b.childField entries with
    | none =>
      rw [hfield] at hchildren
      cases hchildren
      exact List.forall_mem_nil _
    | some v =>
      have hsize : sizeOf v < sizeOf (Value.dict entries) :=
        Nat.lt_of_lt_of_le (Value.sizeOf_field? hfield) (by simp)
      rw [hfield] at hchildren
      exact isLoaded_of_ofChildren hchildren
termination_by sizeOf data

theorem isLoaded_of_ofChildren {v : Value} {ns : List Node}
    (h : (ofChildren strict v).result = .ok ns) : ∀ c ∈ ns, c.IsLoaded := by
  rw [ofChildren.eq_def] at h
  split at h
  · exact isLoaded_of_ofDicts h
  · split at h
    · cases h
    · cases h
      exact List.forall_mem_nil _
    · cases h
termination_by sizeOf v

theorem isLoaded_of_ofDicts {items : List Value} {ns : List Node}
    (h : (ofDicts strict items).result = .ok ns) : ∀ c ∈ ns, c.IsLoaded := by
  rw [ofDicts.eq_def] at h
  split at h
  · cases h
    exact List.forall_mem_nil _
  · next v rest =>
    obtain ⟨first, hfirst, h⟩ := Outcome.result_bind_eq_ok.mp h
    obtain ⟨others, hothers, h⟩ := Outcome.result_bind_eq_ok.mp h
    cases h
    exact List.forall_mem_cons.mpr ⟨isLoaded_of_ofDict hfirst, isLoaded_of_ofDicts hothers⟩
termination_by sizeOf items

end

/-- What is filled has no gap. -/
theorem missing?_of_isFilled {b : Branch} (h : b.IsFilled) : b.missing? = none := by
  cases b with
  | heading level => exact Gap.ofValue?_of_isNull h _ _
  | link url title => exact Gap.ofValue?_of_isNull h _ _
  | _ => rfl

theorem IsLoaded.gap? {n : Node} (h : n.IsLoaded) : ∀ m ∈ n.postOrder, m.gap? = none := by
  induction h with
  | @leaf l h =>
    refine List.forall_mem_singleton.mpr ?_
    cases l with
    | text content metadata => exact Gap.ofValue?_of_isNull h _ _
    | image url alt title width height metadata => exact Gap.ofValue?_of_isNull h.1 _ _
    | foreign name => exact h.elim
    | stray v => exact h.elim
  | @branch b children metadata hb _ _ ih =>
    intro m hm
    rcases mem_postOrder_branch.mp hm with hm | rfl
    · obtain ⟨c, hc, hm⟩ := mem_allPostOrder.mp hm
      exact ih c hc m hm
    · exact missing?_of_isFilled hb

/-- **A tree that is read has no gaps.** -/
theorem gap?_of_ofDict {data : Value} {n : Node} (h : (ofDict strict data).result = .ok n) :
    ∀ m ∈ n.postOrder, m.gap? = none :=
  (isLoaded_of_ofDict h).gap?

end Node

/-! ## What a tree is read back as -/

/-- A leaf as it is read back: an alternative text that is missing is an empty one. -/
def Leaf.loaded : Leaf → Leaf
  | image url alt title width height metadata =>
    image url (if alt.truthy then alt else .text []) title width height metadata
  | l => l

namespace Node

mutual

/-- A tree as it is read back. -/
def loaded : Node → Node
  | leaf l => leaf l.loaded
  | branch b children metadata => branch b (allLoaded children) metadata
  | misfilled b value metadata => misfilled b value metadata

/-- Trees as they are read back. -/
def allLoaded : List Node → List Node
  | [] => []
  | n :: rest => loaded n :: allLoaded rest

end

end Node

section Rendering

variable {fs : FileSystem} {context : RenderContext}

/-- An alternative text that is missing is shown as an empty one. -/
theorem Leaf.imageLink_of_not_truthy {alt : Value} (h : alt.truthy = false) (url : Value) :
    imageLink context url (.text []) = imageLink context url alt := by
  cases alt with
  | text t =>
    obtain rfl : t = [] := by simpa [Value.truthy] using h
    rfl
  | bytes b =>
    obtain rfl : b = [] := by simpa [Value.truthy] using h
    rfl
  | date d => cases h
  | moment m => cases h
  | _ =>
    simp only [imageLink, Rtf.content, h, Bool.false_eq_true, if_false]
    rfl

theorem Leaf.rule_loaded (l : Leaf) : l.loaded.rule fs context = l.rule fs context := by
  cases l with
  | image url alt title width height metadata =>
    cases halt : alt.truthy with
    | true => rw [loaded, halt, if_pos rfl]
    | false =>
      rw [loaded, halt, if_neg Bool.false_ne_true, rule, rule, imageLink_of_not_truthy halt]
  | _ => rfl

namespace Node

theorem isNull_loaded (n : Node) : n.loaded.isNull = n.isNull := by
  cases n with
  | leaf l => cases l <;> rfl
  | _ => rfl

mutual

/-- **A tree has the RTF of what it is read back as**, in every context. -/
theorem render_loaded (n : Node) : n.loaded.render fs context = n.render fs context := by
  match n with
  | leaf l =>
    show rule fs context [] (leaf l.loaded) = rule fs context [] (leaf l)
    exact congrArg (Outcome.ofExcept (Rendered.join []) >>= fun _ => ·) (Leaf.rule_loaded l)
  | branch b children metadata =>
    rw [loaded, render, render, renderAll_loaded children]
    rfl
  | misfilled b value metadata => rfl

theorem renderAll_loaded (ns : List Node) :
    renderAll fs context (allLoaded ns) = renderAll fs context ns := by
  match ns with
  | [] => rfl
  | n :: rest =>
    rw [allLoaded, renderAll, renderAll, isNull_loaded n, render_loaded n, renderAll_loaded rest]

end

end Node

end Rendering

/-! ## Reading a mapping back -/

namespace Node

variable {strict : Bool}

/-- What is looked up in the mapping of a leaf is what was stored in it, unless it is missing. -/
theorem outline_leaf_endsIn {l : Leaf} (h : (leaf l).IsPortable) :
    EndsIn (· = .leaf l.loaded) (outline strict l.fields.entries).result
      (l.missing?.map Gap.failure) := by
  cases h with
  | @text content metadata => cases content <;> first | rfl | exact .ok rfl
  | @image url alt title width height metadata => cases url <;> first | rfl | exact .ok rfl

/-- The same for a branch. -/
theorem outline_branch_endsIn {b : Branch} (h : b.IsPortable) (children : List Node)
    (metadata : Value) :
    EndsIn (· = .branch b metadata)
      (outline strict (fields (branch b children metadata)).entries).result
      (b.missing?.map Gap.failure) := by
  cases b with
  | heading level => cases level <;> first | rfl | exact .ok rfl
  | link url title => cases url <;> first | rfl | exact .ok rfl
  | element tag attributes =>
    obtain ⟨⟨t, rfl⟩, -⟩ := h
    exact .ok rfl
  | _ => exact .ok rfl

theorem check_of_isDraft {b : Branch} (h : b.IsDraft) : b.check = .ok () := by
  cases b with
  | heading level =>
    obtain rfl | ⟨i, hi, hlow, hhigh⟩ := h
    · rfl
    · exact Branch.check_of_isTyped (b := .heading level) ⟨i, hi, hlow, hhigh⟩
  | _ => rfl

/-- The children are read one after the other, as far as the first gap in them. -/
theorem ofDicts_endsIn (strict : Bool) {children : List Node}
    (h : ∀ c ∈ children, EndsIn (· = c.loaded) (ofDict strict (.dict c.fields.entries)).result
      ((c.preOrder.findSome? gap?).map Gap.failure)) :
    EndsIn (· = allLoaded children) (ofDicts strict (mappings children)).result
      (((allPreOrder children).findSome? gap?).map Gap.failure) := by
  induction children with
  | nil =>
    rw [mappings, ofDicts]
    exact .ok rfl
  | cons c rest ih =>
    obtain ⟨hfirst, hothers⟩ := List.forall_mem_cons.mp h
    rw [mappings, ofDicts, allPreOrder, List.findSome?_append, Option.map_or]
    refine Outcome.endsIn_bind hfirst ?_
    rintro _ rfl
    rw [← Option.or_none (o := Option.map _ _)]
    refine Outcome.endsIn_bind (ih hothers) ?_
    rintro _ rfl
    exact .ok rfl

/-- **A draft is read back from its mapping**, unless it lacks something: then reading fails for the
gap of the first node that has one, parents before their children. -/
theorem ofDict_endsIn (strict : Bool) {n : Node} (hdraft : n.IsDraft)
    (hportable : n.IsPortable) :
    EndsIn (· = n.loaded) (ofDict strict (.dict n.fields.entries)).result
      ((n.preOrder.findSome? gap?).map Gap.failure) := by
  have hleaf : ∀ l : Leaf, (leaf l).IsPortable → EndsIn (· = (leaf l).loaded)
      (ofDict strict (.dict l.fields.entries)).result
      (((leaf l).preOrder.findSome? gap?).map Gap.failure) := by
    intro l hl
    have hown : (leaf l).preOrder.findSome? gap? = l.missing? := by simp [preOrder, gap?]
    rw [ofDict, hown, ← Option.or_none (o := Option.map _ _)]
    refine Outcome.endsIn_bind (outline_leaf_endsIn hl) ?_
    rintro _ rfl
    exact .ok rfl
  induction hdraft with
  | text hcontent => exact hleaf _ hportable
  | image hurl halt => exact hleaf _ hportable
  | foreign className => cases hportable
  | @branch b children metadata hb _ ih =>
    cases hportable with
    | @branch _ _ metadata hportable hchildren =>
      have hitems := ofDicts_endsIn strict fun c hc => ih c hc (hchildren c hc)
      have hown : [branch b children (.dict metadata)].findSome? gap? = b.missing? := by
        simp [gap?]
      rw [ofDict, preOrder, ← List.singleton_append, List.findSome?_append, hown, Option.map_or]
      refine Outcome.endsIn_bind (outline_branch_endsIn hportable children _) ?_
      rintro _ rfl
      dsimp only
      split
      · next heq => rw [field?_childField] at heq; cases heq
      · next v heq =>
        obtain rfl : v = .list (mappings children) :=
          Option.some.inj (heq.symm.trans (field?_childField ..))
        rw [ofChildren, check_of_isDraft hb, ← Option.or_none (o := Option.map _ _)]
        refine Outcome.endsIn_bind hitems ?_
        rintro _ rfl
        exact .ok rfl

end Node

/-! ## Loading and rendering -/

/-- A computation that fails for a gap if there is one misses an attribute just then. -/
theorem EndsIn.exists_isMissing_iff {α : Type} {P : α → Prop} {r : Except Failure α} {g : Option Gap}
    (h : EndsIn P r (g.map Gap.failure)) : (∃ e, r = .error e ∧ e.IsMissing) ↔ g ≠ none := by
  cases g with
  | none =>
    obtain ⟨a, rfl, -⟩ := h
    simp
  | some g => exact iff_of_true ⟨_, h, _, _, _, rfl⟩ (Option.some_ne_none g)

/-- Both orders of the nodes of a tree come upon a gap, or both upon none. -/
theorem Node.findSome?_preOrder_eq_none_iff (n : Node) :
    n.preOrder.findSome? gap? = none ↔ n.postOrder.findSome? gap? = none := by
  simp only [List.findSome?_eq_none_iff, mem_preOrder]

namespace Conversion

variable {o : RtfOptions}

/-- **A draft misses an attribute when it is read back from its mapping just where it does when it is
rendered**; where it misses none it is read back, and both trees give one text. -/
theorem reload_missing {n : Node} (hdraft : n.IsDraft) (hportable : n.IsPortable)
    (hbase : o.baseUrl.truthy = false) (hembed : o.embedImages.truthy = false) (strict : Bool)
    (fs : FileSystem) :
    ∃ data, n.toDict = .ok data
      ∧ ((∃ e, (Node.ofDict strict data).result = .error e ∧ e.IsMissing)
        ↔ ∃ e, (renderWith fs o n).result = .error e ∧ e.IsMissing)
      ∧ ((¬ ∃ e, (renderWith fs o n).result = .error e ∧ e.IsMissing) →
        ∃ restored t, (Node.ofDict strict data).result = .ok restored
          ∧ (renderWith fs o n).result = .ok (.text t)
          ∧ (renderWith fs o restored).result = .ok (.text t)) := by
  have hload := Node.ofDict_endsIn strict hdraft hportable
  have hrender := renderWith_endsIn hdraft (.inl hbase) hembed fs
  rw [findSome?_flaw?_of_not_truthy hbase] at hrender
  refine ⟨_, Node.toDict_of_isPortable hportable, ?_, fun hnone => ?_⟩
  · rw [hload.exists_isMissing_iff, hrender.exists_isMissing_iff, ne_eq, ne_eq,
      Node.findSome?_preOrder_eq_none_iff]
  · rw [hrender.exists_isMissing_iff, not_not] at hnone
    rw [n.findSome?_preOrder_eq_none_iff.mpr hnone] at hload
    rw [hnone] at hrender
    obtain ⟨restored, hrestored, rfl⟩ := hload
    obtain ⟨_, ht, t, rfl⟩ := hrender
    refine ⟨_, t, hrestored, ht, ?_⟩
    rw [renderWith_eq hembed, Node.render_loaded, ← renderWith_eq hembed]
    exact ht

/-- **Loading and rendering agree on what is missing.**  No tree that is read from data misses an
attribute when it is rendered, with whatever options.  A draft misses one when it is read back from
its mapping just where it does when it is rendered, without a base URL and without images embedded;
where it misses none it is read back, and both trees give one text. -/
theorem load_and_render_agree :
    (∀ (strict : Bool) (data : Value) (n : Node), (Node.ofDict strict data).result = .ok n →
        ∀ (fs : FileSystem) (o : RtfOptions) (e : Failure),
          (renderWith fs o n).result = .error e → ¬ e.IsMissing)
      ∧ ∀ n : Node, n.IsDraft → n.IsPortable →
        ∀ (strict : Bool) (fs : FileSystem) (o : RtfOptions), o.baseUrl.truthy = false →
          o.embedImages.truthy = false →
          ∃ data, n.toDict = .ok data
            ∧ ((∃ e, (Node.ofDict strict data).result = .error e ∧ e.IsMissing)
              ↔ ∃ e, (renderWith fs o n).result = .error e ∧ e.IsMissing)
            ∧ ((¬ ∃ e, (renderWith fs o n).result = .error e ∧ e.IsMissing) →
              ∃ restored t, (Node.ofDict strict data).result = .ok restored
                ∧ (renderWith fs o n).result = .ok (.text t)
                ∧ (renderWith fs o restored).result = .ok (.text t)) :=
  ⟨fun _ _ _ hread fs o => renderWith_missesNothing fs o (Node.gap?_of_ofDict hread),
    fun _ hdraft hportable strict fs _ hbase hembed =>
      reload_missing hdraft hportable hbase hembed strict fs⟩

/-- A text that is read from data, and a heading that lacks its level around a text that lacks its
content: reading fails for the level, rendering for the content. -/
theorem load_and_render_agree_sample :
    let fs : FileSystem := ⟨.directory [], []⟩
    let data : Value := .dict [(.text "node_type", .text "text"), (.text "content", .text "a")]
    let n : Node := .branch (.heading .null) [.leaf (.text .null (.dict []))] (.dict [])
    (∃ m, (Node.ofDict true data).result = .ok m
        ∧ ∀ e, (renderWith fs {} m).result = .error e → ¬ e.IsMissing)
      ∧ ∃ data, n.toDict = .ok data
        ∧ (Node.ofDict true data).result = .error (.missing "heading" "level")
        ∧ ∃ e, (renderWith fs {} n).result = .error e ∧ e.IsMissing := by
  intro fs data n
  have htext : (Node.ofDict true data).result = .ok (.leaf (.text (.text "a") (.dict []))) := by
    rw [Node.ofDict]
    rfl
  have hdraft : n.IsDraft := .branch (.inl rfl) (List.forall_mem_singleton.mpr (.text (.inl rfl)))
  have hportable : n.IsPortable := .branch trivial (List.forall_mem_singleton.mpr .text)
  obtain ⟨stored, hstored, hiff, -⟩ :=
    load_and_render_agree.2 n hdraft hportable true fs {} rfl rfl
  have hread : (Node.ofDict true stored).result = .error (.missing "heading" "level") := by
    cases hstored
    rw [Node.ofDict]
    rfl
  exact ⟨⟨_, htext, load_and_render_agree.1 true data _ htext fs {}⟩,
    stored, hstored, hread, hiff.mp ⟨_, hread, _, _, _, rfl⟩⟩

end Conversion

end RichText
