import RichText.Proofs.Draft
import RichText.Proofs.TreeJson
import RichText.Tree.Spot

/-!
# Proofs/Spot — what loading fails for

    spots of a document:  no fault, no fault, a fault, …
    loading:              ────────────────────▸ the failure for it

Loading goes through the spots of a document and fails for the first fault (`Node.ofDict_spots`).
The failures it announces are those for values out of place; where a spot is misshapen, it fails
for the operation that meets the value instead (`Spot.explains_of_fault?`).
-/

namespace RichText

/-- The first result of a search is that for the first item that has one. -/
theorem findSome?_eq_bind_find? {α β : Type} (f : α → Option β) (l : List α) :
    l.findSome? f = (l.find? fun a => (f a).isSome).bind f := by
  induction l with
  | nil => rfl
  | cons a rest ih => cases h : f a <;> simp [h, ih]

/-! ## Faults -/

namespace Spot

variable {strict : Bool} {entries : List (Value × Value)} {type : Text}

theorem isAnnounced_of_missingField? {required : List Text} {e : Failure}
    (h : missingField? type required entries = some e) : e.isAnnounced = true := by
  obtain ⟨name, -, hname⟩ := List.exists_of_findSome?_eq_some h
  split at hname
  · cases hname
    rfl
  · cases hname

theorem isAnnounced_of_unknownFault? {type : Value} {e : Failure}
    (h : unknownFault? strict type = some e) : e.isAnnounced = true := by
  rw [unknownFault?] at h
  split at h
  · cases h
    rfl
  · cases h

/-- What a failure says of a spot: that it is misshapen, or what is out of place there. -/
def Explains (p : Spot) (e : Failure) : Prop :=
  if p.isMisshapen then e = .misuse ∨ e = .noPart else e.isAnnounced = true

/-- What explains a misshapen spot is not announced. -/
theorem Explains.isAnnounced_eq {p : Spot} {e : Failure} (h : p.Explains e) :
    e.isAnnounced = !p.isMisshapen := by
  rw [Explains] at h
  split at h
  · next hmisshapen =>
    rw [hmisshapen]
    obtain rfl | rfl := h <;> rfl
  · next hshaped => rw [h, Bool.eq_false_iff.mpr hshaped, Bool.not_false]

theorem Explains.cases {p : Spot} {e : Failure} (h : p.Explains e) :
    e.isAnnounced = true ∨ e = .misuse ∨ e = .noPart := by
  rw [Explains] at h
  split at h
  · exact .inr h
  · exact .inl h

theorem explains_of_fault?_mapping {e : Failure} (h : (mapping entries).fault? strict = some e) :
    (mapping entries).Explains e := by
  rw [fault?] at h
  rw [Explains, isMisshapen]
  generalize Node.fieldOrNull "node_type" entries = type at h ⊢
  cases htruthy : type.truthy with
  | false =>
    rw [htruthy] at h
    cases h
    rfl
  | true =>
    cases hkey : type.isKey with
    | false =>
      rw [htruthy, hkey] at h
      cases h
      exact .inl rfl
    | true =>
      rw [htruthy, hkey] at h
      show e.isAnnounced = true
      simp only [Bool.not_true, Bool.false_eq_true, if_false] at h
      split at h
      · split at h
        · exact isAnnounced_of_missingField? h
        · exact isAnnounced_of_unknownFault? h
      · exact isAnnounced_of_unknownFault? h

theorem explains_of_fault?_children {v : Value} {e : Failure}
    (h : (children v).fault? strict = some e) : (children v).Explains e := by
  by_cases hlist : ∃ items, v = .list items
  · obtain ⟨items, rfl⟩ := hlist
    cases h
  · have hlist : ∀ items, v = .list items → False := fun items hv => hlist ⟨items, hv⟩
    rw [Explains, isMisshapen]
    · rw [fault?] at h
      · split at h
        · next hitems =>
          cases h
          rw [hitems]
          exact .inl rfl
        · cases h
        · next hitems =>
          cases h
          rw [hitems]
          exact .inr rfl
      · exact hlist
    · exact hlist

/-- A level that is refused is out of range, or no number at all. -/
theorem checkLevel_eq_error {v : Value} {e : Failure} (h : Branch.checkLevel v = .error e) :
    e = .invalid (.headingLevel v) ∨ e = .misuse ∧ (level v).isMisshapen = true := by
  rw [Branch.checkLevel.eq_def] at h
  split at h
  · cases h
  · dsimp only at h
    split at h
    · next herror => cases herror
    · cases h
    · cases h
      exact .inl rfl
  · next hnull hfloat =>
    cases hint : v.int? with
    | some n =>
      rw [hint] at h
      dsimp only at h
      split at h
      · next herror => cases herror
      · cases h
      · cases h
        exact .inl rfl
    | none =>
      rw [hint] at h
      cases h
      refine .inr ⟨rfl, ?_⟩
      rw [isMisshapen, hint]
      · rfl
      · exact hnull
      · exact hfloat

/-- What is wrong with a level that is a number is announced. -/
theorem explains_of_fault?_level {v : Value} {e : Failure} (h : (level v).fault? strict = some e) :
    (level v).Explains e := by
  have herror : Branch.checkLevel v = .error e := by
    rw [fault?] at h
    split at h
    · cases h
    · next heq =>
      cases h
      exact heq
  rw [Explains]
  obtain rfl | ⟨rfl, hmisshapen⟩ := checkLevel_eq_error herror
  · cases v with
    | null => cases herror
    | _ => first | rfl | cases herror
  · rw [if_pos hmisshapen]
    exact .inl rfl

/-- **What is wrong with a spot is announced, unless the spot is misshapen.** -/
theorem explains_of_fault? {p : Spot} {e : Failure} (h : p.fault? strict = some e) :
    p.Explains e := by
  cases p with
  | mapping entries => exact explains_of_fault?_mapping h
  | noMapping v =>
    cases h
    exact .inr rfl
  | children v => exact explains_of_fault?_children h
  | level v => exact explains_of_fault?_level h

/-- What ends in the first fault of some spots fails for what is wrong with the first faulty one. -/
theorem eq_error_iff {α : Type} {Q : α → Prop} {r : Except Failure α} {spots : List Spot}
    (h : EndsIn Q r (spots.findSome? (fault? strict))) (e : Failure) :
    r = .error e ↔ ∃ p, spots.find? (fun q => (q.fault? strict).isSome) = some p
      ∧ p.fault? strict = some e := by
  rw [h.eq_error_iff, findSome?_eq_bind_find?, Option.bind_eq_some_iff]

end Spot

/-! ## Outlines -/

namespace Outline

open Spot

/-- An outline that fits a mapping: its children and its level are where they are looked for. -/
def Fits (strict : Bool) (entries : List (Value × Value)) : Outline → Prop
  | leaf _ => Spot.childField? entries = none ∧ closing entries = []
  | branch b _ => Spot.childField? entries = some b.childField
    ∧ EndsIn (fun _ => True) b.check ((closing entries).findSome? (fault? strict))

/-- **What a type is found as**: an outline that fits if the type is a known one, and nothing if
not. -/
inductive IsFoundAs (strict : Bool) (entries : List (Value × Value)) (type : Text) :
    Option (Except Failure Outline) → Prop
  | known {r : Except Failure Outline} {required optional : List Text}
    (h : fieldNames? type = some (required, optional))
    (hr : EndsIn (Fits strict entries) r (missingField? type required entries)) :
    IsFoundAs strict entries type (some r)
  | unknown (h : fieldNames? type = none) : IsFoundAs strict entries type none

variable {strict : Bool} {entries : List (Value × Value)} {type : Text}

theorem fits_leaf (htype : (Node.fieldOrNull "node_type" entries).text? = some type)
    (hknown : (fieldNames? type).isSome = true) (hchild : childField? type = none)
    (hheading : type ≠ "heading") (l : Leaf) : Fits strict entries (leaf l) := by
  rw [Fits, Spot.childField?, closing, htype]
  dsimp only
  rw [if_pos hknown, if_neg hheading]
  exact ⟨hchild, rfl⟩

theorem fits_branch (htype : (Node.fieldOrNull "node_type" entries).text? = some type)
    {b : Branch} (hknown : (fieldNames? type).isSome = true)
    (hchild : childField? type = some b.childField) (hheading : type ≠ "heading")
    (hcheck : b.check = .ok ()) (metadata : Value) : Fits strict entries (branch b metadata) := by
  rw [Fits, Spot.childField?, closing, htype]
  dsimp only
  rw [if_pos hknown, if_neg hheading, hcheck]
  exact ⟨hchild, .ok trivial⟩

theorem fits_heading
    (htype : (Node.fieldOrNull "node_type" entries).text? = some ("heading" : Text))
    (metadata : Value) :
    Fits strict entries (branch (.heading (Node.fieldOrNull "level" entries)) metadata) := by
  rw [Fits, Spot.childField?, closing, htype]
  refine ⟨rfl, ?_⟩
  show EndsIn _ _ ([level (Node.fieldOrNull "level" entries)].findSome? (fault? strict))
  rw [List.findSome?_singleton, fault?, Branch.check]
  cases Branch.checkLevel (Node.fieldOrNull "level" entries) with
  | ok u => exact .ok trivial
  | error e => rfl

theorem isFoundAs_plain {shape : Outline} {optional : List Text}
    (h : fieldNames? type = some ([], optional))
    (hfits : Fits strict entries shape) : IsFoundAs strict entries type (some (.ok shape)) :=
  .known h (.ok hfits)

/-- A field that is needed is there, or is what the type misses first. -/
theorem isFoundAs_required {name : Text} {optional : List Text} {f : Value → Outline}
    (h : fieldNames? type = some ([name], optional))
    (hfits : Fits strict entries (f (Node.fieldOrNull name entries))) :
    IsFoundAs strict entries type (some do return f (← Node.required type name entries)) := by
  have hrequired : EndsIn (· = Node.fieldOrNull name entries) (Node.required type name entries)
      (missingField? type [name] entries) := by
    rw [missingField?, List.findSome?_singleton, Node.required, Node.fieldOrNull]
    cases Value.field? name entries with
    | none => rfl
    | some v => cases v <;> first | rfl | exact .ok rfl
  refine .known h (hrequired.andThen ?_)
  rintro _ rfl
  exact ⟨_, rfl, hfits⟩

/-- The two tables of types agree. -/
theorem isFoundAs_outline? (htype : (Node.fieldOrNull "node_type" entries).text? = some type) :
    IsFoundAs strict entries type (Node.outline? type entries) := by
  have plain {b : Branch} {optional : List Text} (h : fieldNames? type = some ([], optional))
      (hchild : childField? type = some b.childField) (hheading : type ≠ "heading")
      (hcheck : b.check = .ok ()) (metadata : Value) :
      IsFoundAs strict entries type (some (.ok (branch b metadata))) :=
    isFoundAs_plain h (fits_branch htype (by rw [h]; rfl) hchild hheading hcheck metadata)
  rw [Node.outline?]
  -- The types are told apart by their names, one after the other.
  repeat' refine iteInduction (motive := IsFoundAs strict entries type) (fun h => ?_) fun h => ?_
  all_goals try obtain rfl := eq_of_beq h
  · exact plain rfl rfl (by decide) rfl _
  · exact isFoundAs_required rfl (fits_heading htype _)
  · exact plain rfl rfl (by decide) rfl _
  · exact plain rfl rfl (by decide) rfl _
  · exact plain rfl rfl (by decide) rfl _
  · exact isFoundAs_required rfl (fits_leaf htype rfl rfl (by decide) _)
  · exact plain rfl rfl (by decide) rfl _
  · exact plain rfl rfl (by decide) rfl _
  · exact plain rfl rfl (by decide) rfl _
  · exact isFoundAs_required rfl (fits_branch htype rfl rfl (by decide) rfl _)
  · exact isFoundAs_required rfl (fits_leaf htype rfl rfl (by decide) _)
  · exact isFoundAs_required rfl (fits_branch htype rfl rfl (by decide) rfl _)
  · refine .unknown ?_
    simp_all only [fieldNames?, Bool.or_self, Bool.false_eq_true, if_false, Bool.not_eq_true]

/-- A type that is no known one is refused, or has its children where elements have them. -/
theorem unknown_endsIn (hchild : Spot.childField? entries = some ("children" : Text))
    (hclosing : closing entries = []) (name : Value) {unknown : Outcome Outline}
    (h : unknown = if strict then Outcome.fail (.invalid (.unknownNodeType name))
      else Outcome.note (.unknownNodeType name) >>= fun _ =>
        pure (branch (.element name (.dict (Node.otherEntries entries)))
          (Node.fieldOrEmpty "metadata" entries))) :
    EndsIn (Fits strict entries) unknown.result (unknownFault? strict name) := by
  subst h
  cases strict with
  | true => rfl
  | false =>
    refine .ok ⟨hchild, ?_⟩
    rw [hclosing]
    exact .ok trivial

/-- **An outline is found as its mapping says**, unless there is something wrong with it. -/
theorem outline_endsIn :
    EndsIn (Fits strict entries) (Node.outline strict entries).result
      ((mapping entries).fault? strict) := by
  rw [Node.outline, fault?]
  split
  · rfl
  split
  · rfl
  cases htype : (Node.fieldOrNull "node_type" entries).text? with
  | none =>
    refine unknown_endsIn ?_ ?_ _ rfl
    · rw [Spot.childField?, htype]
    · rw [closing, htype]
  | some type =>
    dsimp only [Option.bind_some]
    generalize hfound : Node.outline? type entries = found
    have h : IsFoundAs strict entries type found := hfound ▸ isFoundAs_outline? htype
    cases h with
    | known h hr =>
      rw [h]
      exact hr
    | unknown h =>
      have hheading : type ≠ "heading" := by
        rintro rfl
        cases h
      rw [h]
      refine unknown_endsIn ?_ ?_ _ rfl
      · rw [Spot.childField?, htype]
        dsimp only
        rw [h]
        rfl
      · rw [closing, htype]
        exact if_neg hheading

end Outline

/-! ## Trees -/

namespace Node

open Spot

mutual

/-- **Loading fails for the first spot that something is wrong with**, and gives a tree where there
is none. -/
theorem ofDict_spots (strict : Bool) (data : Value) :
    EndsIn (fun _ => True) (ofDict strict data).result (data.spots.findSome? (fault? strict)) := by
  match data with
  | .dict entries =>
    rw [ofDict_dict, Value.spots_dict, List.cons_append, ← List.singleton_append,
      List.findSome?_append, List.findSome?_append, List.findSome?_singleton]
    refine Outcome.endsIn_bind Outline.outline_endsIn fun shape hfits => ?_
    cases shape with
    | leaf l =>
      obtain ⟨hchild, hclosing⟩ := hfits
      rw [hchild, hclosing]
      exact .ok trivial
    | branch b metadata =>
      obtain ⟨hchild, hcheck⟩ := hfits
      rw [hchild, Option.bind_some]
      have hchildren : EndsIn (fun _ => True)
          (ofField strict (Value.field? b.childField entries)).result
          ((Value.fieldSpots (Value.field? b.childField entries)).findSome? (fault? strict)) := by
        cases hfield : Value.field? b.childField entries with
        | none => exact .ok trivial
        | some v =>
          have := Value.sizeOf_field? hfield
          exact ofChildren_spots strict v
      refine Outcome.endsIn_bind hchildren fun children _ => ?_
      rw [← Option.or_none (o := List.findSome? _ _)]
      exact Outcome.endsIn_bind hcheck fun _ _ => .ok trivial
  | .null | .bool _ | .int _ | .float _ | .text _ | .bytes _ | .list _ | .set _ | .date _
  | .moment _ | .around _ =>
    rw [ofDict.eq_def, Value.spots.eq_def]
    rfl
termination_by sizeOf data

theorem ofChildren_spots (strict : Bool) (v : Value) :
    EndsIn (fun _ => True) (ofChildren strict v).result
      (v.childSpots.findSome? (fault? strict)) := by
  rw [ofChildren.eq_def]
  split
  · next items =>
    rw [Value.childSpots]
    exact ofDicts_spots strict items
  · next hlist =>
    have hspots : v.childSpots = [.children v] := by
      rw [Value.childSpots]
      exact hlist
    rw [hspots, List.findSome?_singleton, fault?]
    · generalize v.items? = items
      match items with
      | none => rfl
      | some [] => exact .ok trivial
      | some (_ :: _) => rfl
    · exact hlist
termination_by sizeOf v

theorem ofDicts_spots (strict : Bool) (items : List Value) :
    EndsIn (fun _ => True) (ofDicts strict items).result
      ((Value.allSpots items).findSome? (fault? strict)) := by
  match items with
  | [] =>
    rw [ofDicts, Value.allSpots]
    exact .ok trivial
  | v :: rest =>
    rw [ofDicts, Value.allSpots, List.findSome?_append]
    refine Outcome.endsIn_bind (ofDict_spots strict v) fun first _ => ?_
    rw [← Option.or_none (o := List.findSome? _ _)]
    exact Outcome.endsIn_bind (ofDicts_spots strict rest) fun others _ => .ok trivial
termination_by sizeOf items

end

/-! ## Documents -/

/-- The mapping of a document whose version is accepted, if versions are looked at. -/
def Accepts (validate : Bool) (document : Text) (entries : List (Value × Value)) : Prop :=
  Json.read document = .ok (.dict entries)
    ∧ (validate = true → checkVersion (Value.field? "schema_version" entries) = .ok ())

/-- The spots of the tree of a document. -/
def documentSpots (entries : List (Value × Value)) : List Spot :=
  (Value.dict (Value.erase "schema_version" entries)).spots

theorem isAnnounced_of_checkVersion {version : Option Value} {e : Failure}
    (h : checkVersion version = .error e) : e.isAnnounced = true := by
  rw [checkVersion.eq_def] at h
  split at h
  · cases h
  · cases h
  · split at h
    · cases h
      rfl
    · split at h
      · cases h
      · cases h
        rfl

/-- Whatever the version is, noting it goes on. -/
theorem noteVersion_result (version : Option Value) : (noteVersion version).result = .ok () := by
  rw [noteVersion.eq_def]
  split
  · rfl
  · rfl
  · split <;> rfl

section

variable {validate : Bool} {document : Text} {entries : List (Value × Value)}

theorem Accepts.unique {entries' : List (Value × Value)} (h : Accepts validate document entries)
    (h' : Accepts validate document entries') : entries' = entries := by
  cases h.1.symm.trans h'.1
  rfl

/-- A document that is accepted is loaded as its tree is. -/
theorem Accepts.ofJson_endsIn (h : Accepts validate document entries) (strict : Bool) :
    EndsIn (fun _ => True) (ofJson validate strict document).result
      ((documentSpots entries).findSome? (fault? strict)) := by
  have hskip {x : Outcome Unit} (hx : x.result = .ok ()) (next : Unit → Outcome Node) :
      (x >>= next).result = (next ()).result := by
    obtain ⟨log, result⟩ := x
    obtain rfl : result = .ok () := hx
    rfl
  have hresult : (ofJson validate strict document).result
      = (ofDict strict (.dict (Value.erase "schema_version" entries))).result := by
    obtain ⟨hread, hversion⟩ := h
    rw [ofJson, hread]
    cases validate with
    | false => exact hskip (noteVersion_result _) _
    | true => exact hskip (hversion rfl) _
  rw [hresult]
  exact ofDict_spots strict _

/-- A document that is not accepted is refused with a failure that is announced. -/
theorem exists_isAnnounced_of_not_accepts (h : ∀ entries, ¬ Accepts validate document entries)
    (strict : Bool) :
    ∃ e, (ofJson validate strict document).result = .error e ∧ e.isAnnounced = true := by
  cases hread : Json.read document with
  | error e =>
    rw [ofJson, hread]
    exact ⟨e.toFailure, rfl, by cases e <;> rfl⟩
  | ok v =>
    rw [ofJson, hread]
    by_cases hdict : ∃ entries, v = .dict entries
    · obtain ⟨entries, rfl⟩ := hdict
      cases validate with
      | false =>
        have haccepts : Accepts false document entries :=
          ⟨hread, fun hvalidate => absurd hvalidate Bool.false_ne_true⟩
        exact (h entries haccepts).elim
      | true =>
        cases hcheck : checkVersion (Value.field? "schema_version" entries) with
        | ok u => exact (h entries ⟨hread, fun _ => hcheck⟩).elim
        | error e =>
          refine ⟨e, ?_, isAnnounced_of_checkVersion hcheck⟩
          show (Outcome.ofExcept (checkVersion _) >>= fun _ => _).result = _
          rw [hcheck]
          rfl
    · refine ⟨.invalid (.noObject v.typeName), ?_, rfl⟩
      show (ofDocument validate strict v).result = _
      rw [ofDocument]
      · rfl
      · exact fun entries hv => hdict ⟨entries, hv⟩

end

/-- **What loading a document fails for.**  A document is loaded just when it is a mapping of an
accepted version and there is nothing wrong with any spot of its tree.  It fails otherwise for a
failure that is announced, or for the wrong operation on a value; and it fails for the latter just
when the first spot that something is wrong with is misshapen. -/
theorem load_failures (validate strict : Bool) (document : Text) :
    ((∃ n, (ofJson validate strict document).result = .ok n)
        ↔ ∃ entries, Accepts validate document entries
          ∧ ∀ p ∈ documentSpots entries, p.fault? strict = none)
      ∧ (∀ e, (ofJson validate strict document).result = .error e →
          e.isAnnounced = true ∨ e = .misuse ∨ e = .noPart)
      ∧ ((∃ e, (ofJson validate strict document).result = .error e ∧ e.isAnnounced = false)
        ↔ ∃ entries p, Accepts validate document entries
          ∧ (documentSpots entries).find? (fun q => (q.fault? strict).isSome) = some p
          ∧ p.isMisshapen = true) := by
  by_cases haccepted : ∃ entries, Accepts validate document entries
  · obtain ⟨entries, haccepted⟩ := haccepted
    have hends := haccepted.ofJson_endsIn strict
    have herror := eq_error_iff hends
    refine ⟨?_, fun e he => ?_, ?_, ?_⟩
    · have hok : (∃ n, (ofJson validate strict document).result = .ok n)
          ↔ ∀ p ∈ documentSpots entries, p.fault? strict = none := by
        rw [← List.findSome?_eq_none_iff, ← hends.exists_ok_iff]
        simp only [and_true]
      rw [hok]
      refine ⟨fun h => ⟨entries, haccepted, h⟩, ?_⟩
      rintro ⟨entries', haccepted', h⟩
      rwa [haccepted.unique haccepted'] at h
    · obtain ⟨p, -, hp⟩ := (herror e).mp he
      exact (explains_of_fault? hp).cases
    · rintro ⟨e, he, hsilent⟩
      obtain ⟨p, hfirst, hp⟩ := (herror e).mp he
      refine ⟨entries, p, haccepted, hfirst, ?_⟩
      simpa [hsilent] using (explains_of_fault? hp).isAnnounced_eq
    · rintro ⟨entries', p, haccepted', hfirst, hmisshapen⟩
      rw [haccepted.unique haccepted'] at hfirst
      obtain ⟨hfaulty, -⟩ := List.find?_eq_some_iff_append.mp hfirst
      obtain ⟨e, hp⟩ := Option.isSome_iff_exists.mp hfaulty
      refine ⟨e, (herror e).mpr ⟨p, hfirst, hp⟩, ?_⟩
      rw [(explains_of_fault? hp).isAnnounced_eq, hmisshapen, Bool.not_true]
  · have hnone (entries : List (Value × Value)) : ¬ Accepts validate document entries :=
      fun h => haccepted ⟨entries, h⟩
    obtain ⟨e, herror, hannounced⟩ := exists_isAnnounced_of_not_accepts hnone strict
    have hrefused {e' : Failure} (he' : (ofJson validate strict document).result = .error e') :
        e'.isAnnounced = true := by
      cases herror.symm.trans he'
      exact hannounced
    refine ⟨⟨?_, ?_⟩, fun e' he' => .inl (hrefused he'), ?_, ?_⟩
    · rintro ⟨n, hn⟩
      cases herror.symm.trans hn
    · rintro ⟨entries, h, -⟩
      exact (hnone entries h).elim
    · rintro ⟨e', he', hsilent⟩
      cases hsilent.symm.trans (hrefused he')
    · rintro ⟨entries, p, h, -⟩
      exact (hnone entries h).elim

/-- A heading whose level is a text: the level is the first spot that something is wrong with. -/
theorem load_failures_sample :
    let document : Text := "\x7b\"node_type\": \"heading\", \"level\": \"1\"\x7d"
    (ofJson true true document).result = .error .misuse
      ∧ (Failure.isAnnounced .misuse = true ∨ Failure.misuse = .misuse ∨ Failure.misuse = .noPart)
      ∧ ∃ entries p, Accepts true document entries
        ∧ (documentSpots entries).find? (fun q => (q.fault? true).isSome) = some p
        ∧ p.isMisshapen = true := by
  intro document
  have hfails : (ofJson true true document).result = .error .misuse := by
    let fields : Fields := [("node_type", .text "heading"), ("level", .text "1")]
    have hdata : (Value.dict fields.entries).IsData := by
      refine .dict (of_decide_eq_true rfl) (List.forall_mem_cons.mpr ⟨.text _, ?_⟩)
      exact List.forall_mem_singleton.mpr (.text _)
    have hwrite : Json.write none (.dict fields.entries) = .ok document := rfl
    rw [ofJson_of_write hdata (of_decide_eq_true rfl) hwrite, ofDict_dict]
    rfl
  obtain ⟨-, hkinds, hfirst⟩ := load_failures true true document
  exact ⟨hfails, hkinds _ hfails, hfirst.mp ⟨_, hfails, rfl⟩⟩

/-- **Null among the children of a document** is met by an operation on mappings: not every failure
of loading is announced. -/
theorem load_null_child :
    let document : Text := "\x7b\"node_type\": \"document\", \"children\": [null]\x7d"
    (ofJson true true document).result = .error .noPart
      ∧ ¬ ∀ validate strict e, (ofJson validate strict document).result = .error e →
        e.isAnnounced = true := by
  intro document
  have hfails : (ofJson true true document).result = .error .noPart := by
    let fields : Fields := [("node_type", .text "document"), ("children", .list [.null])]
    have hdata : (Value.dict fields.entries).IsData := by
      refine .dict (of_decide_eq_true rfl) (List.forall_mem_cons.mpr ⟨.text _, ?_⟩)
      exact List.forall_mem_singleton.mpr (.list (List.forall_mem_singleton.mpr .null))
    have hwrite : Json.write none (.dict fields.entries) = .ok document := rfl
    have hnull : ofField true (some (.list [.null])) = Outcome.fail .noPart := by
      rw [ofField, ofChildren, ofDicts, ofDict.eq_def]
      rfl
    rw [ofJson_of_write hdata (of_decide_eq_true rfl) hwrite, ofDict_dict]
    show (ofField true (some (.list [.null])) >>= fun _ => _).result = _
    rw [hnull]
    rfl
  exact ⟨hfails, fun h => Bool.false_ne_true (h true true _ hfails)⟩

end Node

end RichText
