import RichText.Proofs.Leniency
import RichText.Proofs.Reload
import RichText.Proofs.Spot

/-!
# Proofs/Canonical — loading makes a tree canonical

    data ──ofDict──▸ n ──toDict──▸ saved ──ofDict true──▸ n.canonical ──toDict──▸ saved

Data may lack fields, name them in any order and hold sequences of pairs where mappings are meant.  A
tree that is loaded lacks nothing, and what is saved of it is what is saved of its canonical tree,
which has mappings in place of such sequences (`Node.toDict_canonical`).  That tree is read back as it
is, so from the first time it is saved a tree stays the same (`Node.reloads_of_isLoaded`).
-/

namespace RichText

/-! ## Canonical trees -/

/-- A value as a mapping, if it can be one. -/
def Value.canonical (v : Value) : Value :=
  match v.toEntries with
  | .ok entries => .dict entries
  | .error _ => v

theorem Value.canonical_of_toEntries {v : Value} {entries : List (Value × Value)}
    (h : v.toEntries = .ok entries) : v.canonical = .dict entries := by
  rw [canonical, h]

/-- A leaf with a mapping for its metadata. -/
def Leaf.canonical : Leaf → Leaf
  | text content metadata => text content metadata.canonical
  | image url alt title width height metadata =>
    image url alt title width height metadata.canonical
  | l => l

/-- A branch with a mapping for its attributes. -/
def Branch.canonical : Branch → Branch
  | element tag attributes => element tag attributes.canonical
  | b => b

namespace Node

mutual

/-- **A tree with mappings** where other trees may have sequences of pairs. -/
def canonical : Node → Node
  | leaf l => leaf l.canonical
  | branch b children metadata => branch b.canonical (allCanonical children) metadata.canonical
  | misfilled b value metadata => misfilled b value metadata

/-- Trees with mappings where other trees may have sequences of pairs. -/
def allCanonical : List Node → List Node
  | [] => []
  | n :: rest => canonical n :: allCanonical rest

end

theorem allCanonical_eq_map (ns : List Node) : allCanonical ns = ns.map canonical := by
  induction ns with
  | nil => rfl
  | cons n rest ih => rw [allCanonical, ih, List.map_cons]

mutual

/-- The nodes of a canonical tree are those of the tree, one by one made canonical. -/
theorem preOrder_canonical (n : Node) : n.canonical.preOrder = n.preOrder.map canonical := by
  match n with
  | leaf l => rfl
  | misfilled b value metadata => rfl
  | branch b children metadata =>
    rw [canonical, preOrder, preOrder, List.map_cons, allPreOrder_canonical children, canonical]

theorem allPreOrder_canonical (ns : List Node) :
    allPreOrder (allCanonical ns) = (allPreOrder ns).map canonical := by
  match ns with
  | [] => rfl
  | n :: rest =>
    rw [allCanonical, allPreOrder, allPreOrder, List.map_append, preOrder_canonical n,
      allPreOrder_canonical rest]

end

/-- A tree that has mappings stays as it is. -/
theorem HasMappings.canonical_eq {n : Node} (h : n.HasMappings) : n.canonical = n := by
  induction h with
  | text => rfl
  | image => rfl
  | @branch b children metadata hb _ ih =>
    have hown : b.canonical = b := by
      cases b with
      | element tag attributes =>
        obtain ⟨entries, rfl⟩ := hb
        rfl
      | _ => rfl
    rw [canonical, hown, allCanonical_eq_map, List.map_congr_left ih, List.map_id']
    rfl

/-! ## Saving -/

theorem fieldEntries_canonical {b : Branch} {fields : List (Value × Value)}
    (h : b.fieldEntries = .ok fields) : b.canonical.fieldEntries = .ok fields := by
  cases b with
  | element tag attributes =>
    obtain ⟨entries, hentries, h⟩ := except_bind_eq_ok.mp h
    cases h
    rw [Branch.canonical, Value.canonical_of_toEntries hentries]
    rfl
  | _ => exact h

/-- The rest of a branch is saved as that of the canonical branch is. -/
theorem branch_toDict_canonical {b : Branch} {fields : List (Value × Value)} {items : List Value}
    {metadata saved : Value} (h : b.toDict fields items metadata = .ok saved) :
    b.canonical.toDict fields items metadata.canonical = .ok saved := by
  obtain ⟨entries, hentries, h⟩ := except_bind_eq_ok.mp h
  rw [Value.canonical_of_toEntries hentries]
  cases b <;> exact h

mutual

/-- **A tree is saved as its canonical tree is.** -/
theorem toDict_canonical (n : Node) {saved : Value} (h : n.toDict = .ok saved) :
    n.canonical.toDict = .ok saved := by
  match n with
  | leaf (.text content metadata) =>
    obtain ⟨entries, hentries, h⟩ := except_bind_eq_ok.mp h
    rw [canonical, Leaf.canonical, Value.canonical_of_toEntries hentries]
    exact h
  | leaf (.image url alt title width height metadata) =>
    obtain ⟨entries, hentries, h⟩ := except_bind_eq_ok.mp h
    rw [canonical, Leaf.canonical, Value.canonical_of_toEntries hentries]
    exact h
  | leaf (.foreign name) => cases h
  | leaf (.stray v) => cases h
  | misfilled b value metadata => exact h
  | branch b children metadata =>
    rw [toDict] at h
    obtain ⟨fields, hfields, h⟩ := except_bind_eq_ok.mp h
    obtain ⟨items, hitems, h⟩ := except_bind_eq_ok.mp h
    rw [canonical, toDict, fieldEntries_canonical hfields, toDicts_canonical children hitems]
    exact branch_toDict_canonical h

theorem toDicts_canonical (ns : List Node) {items : List Value} (h : toDicts ns = .ok items) :
    toDicts (allCanonical ns) = .ok items := by
  match ns with
  | [] => exact h
  | n :: rest =>
    rw [toDicts] at h
    obtain ⟨first, hfirst, h⟩ := except_bind_eq_ok.mp h
    obtain ⟨others, hothers, h⟩ := except_bind_eq_ok.mp h
    rw [allCanonical, toDicts, toDict_canonical n hfirst, toDicts_canonical rest hothers]
    exact h

end

mutual

/-- What is saved of a tree is saved of every node of it. -/
theorem exists_toDict_of_mem_preOrder (n : Node) {saved : Value} (h : n.toDict = .ok saved)
    {m : Node} (hm : m ∈ n.preOrder) : ∃ own, m.toDict = .ok own := by
  match n with
  | leaf l => exact ⟨saved, List.mem_singleton.mp hm ▸ h⟩
  | misfilled b value metadata => exact ⟨saved, List.mem_singleton.mp hm ▸ h⟩
  | branch b children metadata =>
    rw [preOrder] at hm
    rcases List.mem_cons.mp hm with rfl | hm
    · exact ⟨saved, h⟩
    · rw [toDict] at h
      obtain ⟨fields, -, h⟩ := except_bind_eq_ok.mp h
      obtain ⟨items, hitems, -⟩ := except_bind_eq_ok.mp h
      exact exists_toDict_of_mem_allPreOrder children hitems hm

theorem exists_toDict_of_mem_allPreOrder (ns : List Node) {items : List Value}
    (h : toDicts ns = .ok items) {m : Node} (hm : m ∈ allPreOrder ns) :
    ∃ own, m.toDict = .ok own := by
  match ns with
  | [] => exact absurd hm List.not_mem_nil
  | n :: rest =>
    rw [toDicts] at h
    obtain ⟨first, hfirst, h⟩ := except_bind_eq_ok.mp h
    obtain ⟨others, hothers, -⟩ := except_bind_eq_ok.mp h
    rw [allPreOrder] at hm
    rcases List.mem_append.mp hm with hm | hm
    · exact exists_toDict_of_mem_preOrder n hfirst hm
    · exact exists_toDict_of_mem_allPreOrder rest hothers hm

end

theorem mem_preOrder_self (n : Node) : n ∈ n.preOrder := by
  cases n with
  | leaf l => exact List.mem_singleton_self _
  | misfilled b value metadata => exact List.mem_singleton_self _
  | branch b children metadata =>
    rw [preOrder]
    exact List.mem_cons_self

theorem mem_allPreOrder_of_mem {ns : List Node} {c : Node} (hc : c ∈ ns) :
    c ∈ allPreOrder ns := by
  induction ns with
  | nil => exact absurd hc List.not_mem_nil
  | cons n rest ih =>
    rw [allPreOrder]
    rcases List.mem_cons.mp hc with rfl | hc
    · exact List.mem_append_left _ (mem_preOrder_self c)
    · exact List.mem_append_right _ (ih hc)

theorem hasMappings_of_leaf_toDict {l : Leaf} {saved : Value} (h : l.toDict = .ok saved) :
    (leaf l.canonical).HasMappings := by
  cases l with
  | text content metadata =>
    obtain ⟨entries, hentries, -⟩ := except_bind_eq_ok.mp h
    rw [Leaf.canonical, Value.canonical_of_toEntries hentries]
    exact .text
  | image url alt title width height metadata =>
    obtain ⟨entries, hentries, -⟩ := except_bind_eq_ok.mp h
    rw [Leaf.canonical, Value.canonical_of_toEntries hentries]
    exact .image
  | foreign name => cases h
  | stray v => cases h

theorem hasMappings_of_fieldEntries {b : Branch} {fields : List (Value × Value)}
    (h : b.fieldEntries = .ok fields) : b.canonical.HasMappings := by
  cases b with
  | element tag attributes =>
    obtain ⟨entries, hentries, -⟩ := except_bind_eq_ok.mp h
    exact ⟨entries, Value.canonical_of_toEntries hentries⟩
  | _ => trivial

/-- What can be saved of a tree that was loaded has mappings. -/
theorem IsLoaded.hasMappings_canonical {n : Node} (h : n.IsLoaded) {saved : Value}
    (hsave : n.toDict = .ok saved) : n.canonical.HasMappings := by
  induction h generalizing saved with
  | leaf _ => exact hasMappings_of_leaf_toDict hsave
  | @branch b children metadata _ _ _ ih =>
    rw [toDict] at hsave
    obtain ⟨fields, hfields, hsave⟩ := except_bind_eq_ok.mp hsave
    obtain ⟨items, hitems, hsave⟩ := except_bind_eq_ok.mp hsave
    obtain ⟨entries, hentries, -⟩ := except_bind_eq_ok.mp hsave
    rw [canonical, Value.canonical_of_toEntries hentries, allCanonical_eq_map]
    refine .branch (hasMappings_of_fieldEntries hfields) (List.forall_mem_map.mpr fun c hc => ?_)
    obtain ⟨own, hown⟩ := exists_toDict_of_mem_allPreOrder children hitems (mem_allPreOrder_of_mem hc)
    exact ih c hc hown

/-- Nothing gets lost on the way to the canonical tree. -/
theorem IsLoaded.canonical {n : Node} (h : n.IsLoaded) : n.canonical.IsLoaded := by
  induction h with
  | @leaf l h => cases l <;> exact .leaf h
  | @branch b children metadata hb hcheck _ ih =>
    have hfilled : b.canonical.IsFilled ∧ b.canonical.check = .ok () := by
      cases b <;> exact ⟨hb, hcheck⟩
    rw [Node.canonical, allCanonical_eq_map]
    exact .branch hfilled.1 hfilled.2 (List.forall_mem_map.mpr ih)

/-! ## Saving and loading again -/

/-- A tree that is saved and loaded. -/
def reload (n : Node) : Outcome Node := do ofDict true (← n.toDict)

/-- A tree that is saved and loaded a number of times. -/
def reloads : Nat → Node → Outcome Node
  | 0, n => return n
  | rounds + 1, n => do reloads rounds (← n.reload)

section Rounds

variable {n : Node} {saved : Value} (h : n.IsLoaded) (hsave : n.toDict = .ok saved)

include h hsave

/-- **What is saved of a tree that was loaded** is the mapping of its canonical tree. -/
theorem saved_eq : saved = .dict n.canonical.fields.entries := by
  have hcanonical := toDict_canonical n hsave
  rw [toDict_of_hasMappings (h.hasMappings_canonical hsave)] at hcanonical
  exact (Except.ok.inj hcanonical).symm

/-- **It reads back as the canonical tree**, strictly and without a notice. -/
theorem ofDict_saved (strict : Bool) : ofDict strict saved = pure n.canonical := by
  rw [saved_eq h hsave]
  exact ofDict_of_isLoaded h.canonical strict

theorem reload_eq : n.reload = pure n.canonical := by
  rw [reload, hsave]
  exact ofDict_saved h hsave true

/-- **A tree that was loaded stays the same from the first round on.** -/
theorem reloads_of_isLoaded (rounds : Nat) : n.reloads (rounds + 1) = pure n.canonical := by
  induction rounds generalizing n with
  | zero =>
    rw [reloads, reload_eq h hsave]
    rfl
  | succ rounds ih =>
    have hagain : n.canonical.canonical = n.canonical :=
      (h.hasMappings_canonical hsave).canonical_eq
    rw [reloads, reload_eq h hsave, pure_bind, ih h.canonical (toDict_canonical n hsave), hagain]

end Rounds

end Node

/-! ## The nodes of what is loaded -/

/-- The mapping of a spot where one stands for a node. -/
def Spot.entries? : Spot → Option (List (Value × Value))
  | mapping entries => some entries
  | _ => none

/-- **The mappings that stand for nodes**, parents before their children. -/
def Value.nodeEntries (data : Value) : List (List (Value × Value)) :=
  data.spots.filterMap Spot.entries?

namespace Node

variable {strict : Bool}

/-- **A node is read from a mapping**, and its children from the field for them. -/
inductive IsReadFrom (strict : Bool) (entries : List (Value × Value)) : Node → Prop
  | leaf {l : Leaf} (h : (outline strict entries).result = .ok (.leaf l)) :
    IsReadFrom strict entries (leaf l)
  | branch {b : Branch} {children : List Node} {metadata : Value}
    (h : (outline strict entries).result = .ok (.branch b metadata))
    (hchildren : (ofField strict (Value.field? b.childField entries)).result = .ok children) :
    IsReadFrom strict entries (branch b children metadata)

/-- No node stands at the spots behind the children. -/
theorem filterMap_closing (entries : List (Value × Value)) :
    (Spot.closing entries).filterMap Spot.entries? = [] := by
  rw [Spot.closing]
  split
  · split <;> rfl
  · rfl

mutual

/-- **The nodes of a tree that is loaded are read from its mappings**, one from each, in order. -/
theorem forall₂_of_ofDict {data : Value} {n : Node} (h : (ofDict strict data).result = .ok n) :
    List.Forall₂ (IsReadFrom strict) data.nodeEntries n.preOrder := by
  obtain ⟨entries, rfl⟩ := exists_dict_of_ofDict h
  rw [ofDict_dict] at h
  obtain ⟨shape, hshape, h⟩ := Outcome.result_bind_eq_ok.mp h
  have hfits := Outline.outline_endsIn.of_eq_ok hshape
  have hmapping : Spot.entries? (.mapping entries) = some entries := rfl
  rw [Value.nodeEntries, Value.spots_dict, List.filterMap_append, filterMap_closing,
    List.append_nil, List.filterMap_cons_some hmapping]
  cases shape with
  | leaf l =>
    cases h
    rw [hfits.1]
    exact .cons (.leaf hshape) .nil
  | branch b metadata =>
    obtain ⟨children, hchildren, h⟩ := Outcome.result_bind_eq_ok.mp h
    obtain ⟨-, -, h⟩ := Outcome.result_bind_eq_ok.mp h
    cases h
    rw [hfits.1, Option.bind_some]
    refine .cons (.branch hshape hchildren) ?_
    cases hfield : Value.field? b.childField entries with
    | none =>
      rw [hfield] at hchildren
      cases hchildren
      exact .nil
    | some v =>
      have hsize : sizeOf v < sizeOf (Value.dict entries) :=
        Nat.lt_of_lt_of_le (Value.sizeOf_field? hfield) (by simp)
      rw [hfield] at hchildren
      exact forall₂_of_ofChildren hchildren
termination_by sizeOf data

theorem forall₂_of_ofChildren {v : Value} {ns : List Node}
    (h : (ofChildren strict v).result = .ok ns) :
    List.Forall₂ (IsReadFrom strict) (v.childSpots.filterMap Spot.entries?) (allPreOrder ns) := by
  rw [ofChildren.eq_def] at h
  split at h
  · next items =>
    have hnone : Spot.entries? (.children (.list items)) = none := rfl
    rw [Value.childSpots, List.filterMap_cons_none hnone]
    exact forall₂_of_ofDicts h
  · next hlist =>
    have hspots : v.childSpots = [.children v] := by
      rw [Value.childSpots]
      exact hlist
    split at h
    · cases h
    · cases h
      rw [hspots]
      exact .nil
    · cases h
termination_by sizeOf v

theorem forall₂_of_ofDicts {items : List Value} {ns : List Node}
    (h : (ofDicts strict items).result = .ok ns) :
    List.Forall₂ (IsReadFrom strict) ((Value.allSpots items).filterMap Spot.entries?)
      (allPreOrder ns) := by
  rw [ofDicts.eq_def] at h
  split at h
  · cases h
    rw [Value.allSpots]
    exact .nil
  · next v rest =>
    obtain ⟨first, hfirst, h⟩ := Outcome.result_bind_eq_ok.mp h
    obtain ⟨others, hothers, h⟩ := Outcome.result_bind_eq_ok.mp h
    cases h
    rw [Value.allSpots, List.filterMap_append, allPreOrder]
    exact List.rel_append (forall₂_of_ofDict hfirst) (forall₂_of_ofDicts hothers)
termination_by sizeOf items

end

/-- A mapping of an unknown type. -/
def IsUnknown (entries : List (Value × Value)) : Prop :=
  (fieldOrNull "node_type" entries).text?.bind Outline.fieldNames? = none

/-- What is read of a mapping of an unknown type is an element with the other entries as its
attributes. -/
theorem outline_of_isUnknown {entries : List (Value × Value)} (hunknown : IsUnknown entries)
    {shape : Outline} (h : (outline strict entries).result = .ok shape) :
    shape = .branch (.element (fieldOrNull "node_type" entries) (.dict (otherEntries entries)))
      (fieldOrEmpty "metadata" entries) := by
  have hnone : (fieldOrNull "node_type" entries).text?.bind (outline? · entries) = none := by
    cases htype : (fieldOrNull "node_type" entries).text? with
    | none => rfl
    | some type =>
      rw [IsUnknown, htype] at hunknown
      have hfound : Outline.IsFoundAs true entries type (outline? type entries) :=
        Outline.isFoundAs_outline? htype
      rw [Option.bind_some] at hunknown ⊢
      generalize outline? type entries = found at hfound
      cases hfound with
      | known h _ => rw [hunknown] at h; cases h
      | unknown _ => rfl
  rw [outline, hnone] at h
  split at h
  · cases h
  split at h
  · cases h
  cases strict with
  | true => cases h
  | false =>
    cases h
    rfl

/-- An element that a mapping of an unknown type is read as. -/
def elementOf (entries : List (Value × Value)) (children : List Node) (metadata : Value) : Node :=
  .branch (.element (fieldOrNull "node_type" entries) (.dict (otherEntries entries))) children
    metadata

theorem canonical_elementOf (entries : List (Value × Value)) (children : List Node)
    (metadata : Value) : (elementOf entries children metadata).canonical
      = elementOf entries (children.map canonical) metadata.canonical := by
  rw [elementOf, canonical, allCanonical_eq_map]
  rfl

/-- The attributes of such an element hold whatever is not read otherwise. -/
theorem field?_otherEntries {name : Text} (entries : List (Value × Value))
    (h : name ∉ (["node_type", "children", "metadata"] : List Text)) :
    Value.field? name (otherEntries entries) = Value.field? name entries := by
  rw [List.mem_cons, List.mem_cons, List.mem_singleton, not_or, not_or] at h
  obtain ⟨htype, hchildren, hmetadata⟩ := h
  induction entries with
  | nil => rfl
  | cons e rest ih =>
    obtain ⟨key, v⟩ := e
    rw [otherEntries, List.filter_cons]
    split
    · cases key with
      | text t => rw [Value.field?, Value.field?]; exact ite_congr rfl (fun _ => rfl) fun _ => ih
      | _ => exact ih
    · next hkey =>
      rw [← otherEntries, ih]
      cases key with
      | text t =>
        have hne : t ≠ name := by
          rintro rfl
          simp [Value.same, htype, hchildren, hmetadata] at hkey
        rw [Value.field?, if_neg hne]
      | _ => rfl

/-- At the place of a mapping stands the node that is read from it. -/
theorem exists_isReadFrom {data : Value} {n : Node} (h : (ofDict strict data).result = .ok n)
    {i : Nat} {entries : List (Value × Value)} (hi : data.nodeEntries[i]? = some entries) :
    ∃ m, n.preOrder[i]? = some m ∧ IsReadFrom strict entries m := by
  obtain ⟨hlength, hread⟩ := List.forall₂_iff_get.mp (forall₂_of_ofDict h)
  obtain ⟨hlt, rfl⟩ := List.getElem?_eq_some_iff.mp hi
  exact ⟨_, List.getElem?_eq_getElem (hlength ▸ hlt), hread i hlt (hlength ▸ hlt)⟩

/-- **Loading makes a tree canonical.**  What is saved of a tree that was loaded, strictly or not, is
loaded strictly without a notice, and the same is saved of it again, any number of times.  A mapping
of an unknown type is an element with its other entries as attributes; this element stands at its
place in every further round, where from the first one on metadata and attributes that were pairs are a
mapping.  A tree with mappings for its metadata and attributes stays as it is altogether. -/
theorem load_canonicalises {data saved : Value} {strict : Bool} {n : Node}
    (hload : (ofDict strict data).result = .ok n) (hsave : n.toDict = .ok saved) :
    (∃ again, ofDict true saved = pure again ∧ again.toDict = .ok saved)
    ∧ (∀ rounds, ∃ m, n.reloads rounds = pure m ∧ m.toDict = .ok saved
      ∧ (n.HasMappings → m = n))
    ∧ ∀ (i : Nat) entries, data.nodeEntries[i]? = some entries → IsUnknown entries →
      ∃ (children : List Node) (element again : Node),
        (ofField strict (Value.field? "children" entries)).result = .ok children
        ∧ element = elementOf entries children (fieldOrEmpty "metadata" entries)
        ∧ again = elementOf entries (children.map canonical)
          (fieldOrEmpty "metadata" entries).canonical
        ∧ (∀ name, name ∉ (["node_type", "children", "metadata"] : List Text) →
          Value.field? name (otherEntries entries) = Value.field? name entries)
        ∧ (∃ own, element.toDict = .ok own ∧ again.toDict = .ok own)
        ∧ (element.HasMappings → again = element)
        ∧ ∀ rounds, ∃ m : Node, n.reloads rounds = pure m
          ∧ m.preOrder[i]? = some (if rounds = 0 then element else again) := by
  have hloaded := isLoaded_of_ofDict hload
  refine ⟨⟨_, ofDict_saved hloaded hsave true, toDict_canonical n hsave⟩, fun rounds => ?_,
    fun i entries hentries hunknown => ?_⟩
  · cases rounds with
    | zero => exact ⟨n, rfl, hsave, fun _ => rfl⟩
    | succ rounds =>
      exact ⟨n.canonical, reloads_of_isLoaded hloaded hsave rounds, toDict_canonical n hsave,
        HasMappings.canonical_eq⟩
  · obtain ⟨m, hm, hread⟩ := exists_isReadFrom hload hentries
    cases hread with
    | leaf h => cases outline_of_isUnknown hunknown h
    | @branch b children metadata h hchildren =>
      cases outline_of_isUnknown hunknown h
      obtain ⟨own, hown⟩ := exists_toDict_of_mem_preOrder n hsave (List.mem_of_getElem? hm)
      refine ⟨children, _, _, hchildren, rfl, rfl, fun name => field?_otherEntries entries, ?_⟩
      rw [← canonical_elementOf]
      refine ⟨⟨own, hown, toDict_canonical _ hown⟩, HasMappings.canonical_eq, fun rounds => ?_⟩
      cases rounds with
      | zero => exact ⟨n, rfl, hm⟩
      | succ rounds =>
        refine ⟨n.canonical, reloads_of_isLoaded hloaded hsave rounds, ?_⟩
        rw [preOrder_canonical, List.getElem?_map, hm]
        rfl

/-- An element of an unknown type in a document, with a sequence of pairs for its metadata. -/
theorem load_canonicalises_sample :
    let pairs : Value := .list [.list [.text "k", .text "v"]]
    let entries : List (Value × Value) :=
      [(.text "node_type", .text "note"), (.text "id", .int 1), (.text "metadata", pairs)]
    let root : List (Value × Value) :=
      [(.text "node_type", .text "document"), (.text "children", .list [.dict entries])]
    let n : Node := .branch .document [elementOf entries [] pairs] (.dict [])
    (ofDict false (.dict root)).result = .ok n ∧ (∃ saved, n.toDict = .ok saved)
      ∧ (Value.dict root).nodeEntries[1]? = some entries ∧ IsUnknown entries
      ∧ ∀ rounds, ∃ m : Node, n.reloads (rounds + 1) = pure m
        ∧ m.preOrder[1]? = some (elementOf entries [] (.dict [(.text "k", .text "v")])) := by
  intro pairs entries root n
  have houtline : outline false root = pure (.branch .document (.dict [])) := rfl
  have hfield : Value.field? (Branch.childField .document) root = some (.list [.dict entries]) := rfl
  have hload : (ofDict false (.dict root)).result = .ok n := by
    have hnote : ofDict false (.dict entries)
        = ⟨[.unknownNodeType (.text "note")], .ok (elementOf entries [] pairs)⟩ := by
      rw [ofDict_dict, outline_of_unknown rfl (List.cons_ne_nil _ _) rfl]
      rfl
    have hchildren : ofField false (some (.list [.dict entries]))
        = ⟨[.unknownNodeType (.text "note")], .ok [elementOf entries [] pairs]⟩ := by
      rw [ofField, ofChildren, ofDicts, hnote, ofDicts]
      rfl
    rw [ofDict_dict, houtline, pure_bind]
    dsimp only
    rw [hfield, hchildren]
    rfl
  have hentries : (Value.dict root).nodeEntries[1]? = some entries := by
    have hchild : (Spot.childField? root).bind (Value.field? · root)
        = some (.list [.dict entries]) := rfl
    rw [Value.nodeEntries, Value.spots_dict, hchild, Value.fieldSpots, Value.childSpots,
      Value.allSpots, Value.spots_dict]
    rfl
  obtain ⟨saved, hsave⟩ : ∃ saved, n.toDict = .ok saved := ⟨_, rfl⟩
  refine ⟨hload, ⟨saved, hsave⟩, hentries, rfl, fun rounds => ?_⟩
  obtain ⟨-, -, hunknown⟩ := load_canonicalises hload hsave
  obtain ⟨children, element, again, hchildren, -, rfl, -, -, -, hrounds⟩ :=
    hunknown 1 entries hentries rfl
  cases hchildren
  obtain ⟨m, hm, hplace⟩ := hrounds (rounds + 1)
  exact ⟨m, hm, hplace⟩

/-- **Pairs in the place of metadata are a mapping in every further round**, so the element that was
loaded is not the one it is reloaded as. -/
theorem reload_of_pairs :
    let pairs : Value := .list [.list [.text "k", .text "v"]]
    let entries : List (Value × Value) :=
      [(.text "node_type", .text "note"), (.text "id", .int 1), (.text "metadata", pairs)]
    let n := elementOf entries [] pairs
    (ofDict false (.dict entries)).result = .ok n ∧ IsUnknown entries
      ∧ ∀ rounds, ∃ m, n.reloads (rounds + 1) = pure m ∧ m ≠ n := by
  intro pairs entries n
  have hload : (ofDict false (.dict entries)).result = .ok n := by
    rw [ofDict_dict, outline_of_unknown rfl (List.cons_ne_nil _ _) rfl]
    rfl
  refine ⟨hload, rfl, fun rounds => ⟨n.canonical, ?_, fun h => ?_⟩⟩
  · obtain ⟨saved, hsave⟩ : ∃ saved, n.toDict = .ok saved := ⟨_, rfl⟩
    exact reloads_of_isLoaded (isLoaded_of_ofDict hload) hsave rounds
  · have hmetadata : Value.dict [(.text "k", .text "v")] = .list [.list [.text "k", .text "v"]] :=
      (Node.branch.inj h).2.2
    cases hmetadata

end Node

end RichText
