import RichText.Proofs.TreeJson

/-!
# Proofs/Leniency — loading strictly and leniently

    lenient:  a warning of an unknown type, more of them, how it ends
    strict:   the refusal of that type

Loading warns of nothing but unknown types.  `Outcome.Refuses` says how the strict load ends beside
the lenient one: in the same way if there was nothing to warn of, and otherwise with the refusal of
the type that the first warning names.  The relation goes through the steps of a computation
(`Outcome.Refuses.bind`), so it holds of loading if it holds of the one step that looks at the mode
(`Node.refuses_outline`).
-/

namespace RichText

/-! ## Refusals -/

/-- **A strict outcome beside the lenient one.** -/
inductive Outcome.Refuses {α : Type} : (lenient strict : Outcome α) → Prop
  /-- Nothing was warned of. -/
  | quiet (r : Except Failure α) : Refuses (ofExcept r) (ofExcept r)
  /-- The type that is warned of first is refused, whatever became of the lenient load. -/
  | warned (name : Value) (rest : List Notice) (r : Except Failure α) :
    Refuses ⟨.unknownNodeType name :: rest, r⟩ (fail (.invalid (.unknownNodeType name)))

namespace Outcome.Refuses

variable {α β : Type} {lenient strict : Outcome α}

theorem pure (a : α) : Refuses (pure a) (pure a) := .quiet (.ok a)

theorem fail (e : Failure) : Refuses (fail e : Outcome α) (fail e) := .quiet (.error e)

/-- **Refusals go through the steps of a computation.** -/
theorem bind (h : Refuses lenient strict) {f g : α → Outcome β} (hnext : ∀ a, Refuses (f a) (g a)) :
    Refuses (lenient >>= f) (strict >>= g) := by
  cases h with
  | quiet r =>
    cases r with
    | error e => exact .fail e
    | ok a =>
      have hok (k : α → Outcome β) : ofExcept (.ok a) >>= k = k a := pure_bind a k
      rw [hok, hok]
      exact hnext a
  | warned name rest r =>
    cases r with
    | error e => exact .warned name rest (.error e)
    | ok a => exact .warned name (rest ++ (f a).log) (f a).result

/-- A strict outcome is a lenient one without a warning. -/
theorem strict_eq_ok (h : Refuses lenient strict) {a : α} :
    strict.result = .ok a
      ↔ lenient.result = .ok a ∧ ∀ name, .unknownNodeType name ∉ lenient.log := by
  cases h with
  | quiet r => exact (and_iff_left fun _ => List.not_mem_nil).symm
  | warned name rest r =>
    refine iff_of_false (fun hok => nomatch hok) fun hlenient => ?_
    exact hlenient.2 name List.mem_cons_self

/-- Without a warning there is nothing to tell apart. -/
theorem eq_of_quiet (h : Refuses lenient strict)
    (hquiet : ∀ name, .unknownNodeType name ∉ lenient.log) :
    lenient = strict ∧ lenient.log = [] := by
  cases h with
  | quiet r => exact ⟨rfl, rfl⟩
  | warned name rest r => exact (hquiet name List.mem_cons_self).elim

/-- The first warning names the type that is refused. -/
theorem strict_eq_error (h : Refuses lenient strict) {before after : List Notice} {name : Value}
    (hlog : lenient.log = before ++ .unknownNodeType name :: after)
    (hbefore : ∀ name', .unknownNodeType name' ∉ before) :
    strict = Outcome.fail (.invalid (.unknownNodeType name)) := by
  cases h with
  | quiet r => simp [ofExcept] at hlog
  | warned first rest r =>
    cases before with
    | nil =>
      obtain ⟨hfirst, -⟩ := List.cons.inj hlog
      cases hfirst
      rfl
    | cons n before =>
      obtain ⟨rfl, -⟩ := List.cons.inj hlog
      exact (hbefore first List.mem_cons_self).elim

end Outcome.Refuses

/-! ## Loading -/

namespace Node

open Outcome

/-- An unknown type is refused or made the tag of an element, with a warning. -/
theorem outline_of_unknown {entries : List (Value × Value)} {name : Text}
    (htype : fieldOrNull "node_type" entries = .text name) (hname : name ≠ [])
    (hunknown : outline? name entries = none) (strict : Bool) :
    outline strict entries
      = if strict then fail (.invalid (.unknownNodeType (.text name)))
        else note (.unknownNodeType (.text name)) >>= fun _ =>
          pure (.branch (.element (.text name) (.dict (otherEntries entries)))
            (fieldOrEmpty "metadata" entries)) := by
  have htruthy : (Value.text name).truthy = true := by simpa [Value.truthy] using hname
  rw [outline, htype, htruthy]
  simp only [Value.isKey, Value.text?, Option.bind_some, hunknown]
  rfl

/-- The one step that looks at the mode. -/
theorem refuses_outline (entries : List (Value × Value)) :
    Refuses (outline false entries) (outline true entries) := by
  rw [outline, outline]
  split
  · exact .fail _
  split
  · exact .fail _
  split
  · exact .quiet _
  · exact .warned _ [] _

mutual

/-- **A strict load is a lenient one up to its first warning.** -/
theorem refuses_ofDict (data : Value) : Refuses (ofDict false data) (ofDict true data) := by
  match data with
  | .dict entries =>
    rw [ofDict_dict, ofDict_dict]
    refine (refuses_outline entries).bind fun shape => ?_
    cases shape with
    | leaf l => exact .pure _
    | branch b metadata =>
      have hchildren : Refuses (ofField false (Value.field? b.childField entries))
          (ofField true (Value.field? b.childField entries)) := by
        cases hfield : Value.field? b.childField entries with
        | none => exact .pure []
        | some v =>
          have := Value.sizeOf_field? hfield
          exact refuses_ofChildren v
      refine hchildren.bind fun children => ?_
      exact (Refuses.quiet b.check).bind fun _ => .pure _
  | .null | .bool _ | .int _ | .float _ | .text _ | .bytes _ | .list _ | .set _ | .date _
  | .moment _ | .around _ =>
    rw [ofDict.eq_def, ofDict.eq_def]
    exact .fail _
termination_by sizeOf data

theorem refuses_ofChildren (v : Value) : Refuses (ofChildren false v) (ofChildren true v) := by
  rw [ofChildren.eq_def, ofChildren.eq_def]
  split
  · exact refuses_ofDicts _
  · split
    · exact .fail _
    · exact .pure _
    · exact .fail _
termination_by sizeOf v

theorem refuses_ofDicts (items : List Value) :
    Refuses (ofDicts false items) (ofDicts true items) := by
  match items with
  | [] =>
    rw [ofDicts, ofDicts]
    exact .pure _
  | v :: rest =>
    rw [ofDicts, ofDicts]
    refine (refuses_ofDict v).bind fun first => ?_
    exact (refuses_ofDicts rest).bind fun others => .pure _
termination_by sizeOf items

end

/-- **What is loaded strictly is loaded in both modes**, without a notice. -/
theorem ofDict_eq_pure {data : Value} {n : Node} (h : (ofDict true data).result = .ok n)
    (strict : Bool) : ofDict strict data = pure n := by
  obtain ⟨hok, hquiet⟩ := (refuses_ofDict data).strict_eq_ok.mp h
  obtain ⟨hsame, hlog⟩ := (refuses_ofDict data).eq_of_quiet hquiet
  have hlenient : ofDict false data = pure n := by
    cases hload : ofDict false data with
    | mk log result =>
      rw [hload] at hok hlog
      obtain rfl : log = [] := hlog
      obtain rfl : result = .ok n := hok
      rfl
  cases strict with
  | false => exact hlenient
  | true => exact hsame.symm.trans hlenient

/-! ## Documents -/

/-- A version that passes the check is the current one. -/
theorem int?_of_checkVersion {v : Value} (hnull : v ≠ .null) (h : checkVersion (some v) = .ok ()) :
    v.int? = some schemaVersion := by
  rw [checkVersion] at h
  · split at h
    · cases h
    · next i hi =>
      split at h
      · next hversion => rw [hi, hversion]
      · cases h
  · exact hnull

/-- A number that counts as the current version equals it. -/
theorem same_schemaVersion {v : Value} (h : v.int? = some schemaVersion) :
    v.same (.int schemaVersion) = true := by
  cases v with
  | int i => simpa [Value.same, Value.numEq, Value.int?] using h
  | bool b => simpa [Value.same, Value.numEq, Value.int?] using h
  | _ => cases h

/-- A version that passes the check is not noted. -/
theorem noteVersion_of_checkVersion {version : Option Value} (h : checkVersion version = .ok ()) :
    noteVersion version = pure () := by
  cases version with
  | none => rfl
  | some v =>
    by_cases hnull : v = .null
    · rw [hnull]
      rfl
    · rw [noteVersion, if_pos (same_schemaVersion (int?_of_checkVersion hnull h))]
      exact hnull

/-- What is accepted with both checks is accepted with either and with none. -/
theorem ofDocument_eq_pure {data : Value} {n : Node}
    (h : (ofDocument true true data).result = .ok n) (validate strict : Bool) :
    ofDocument validate strict data = pure n := by
  rw [ofDocument.eq_def] at h ⊢
  split at h
  · next entries =>
    obtain ⟨⟨⟩, hversion, hdict⟩ := Outcome.result_bind_eq_ok.mp h
    have hcheck : checkVersion (Value.field? "schema_version" entries) = .ok () := hversion
    have hload := ofDict_eq_pure hdict strict
    cases validate with
    | true =>
      rw [if_pos rfl, hcheck, hload]
      rfl
    | false =>
      rw [if_neg Bool.false_ne_true, noteVersion_of_checkVersion hcheck, hload]
      rfl
  · cases h

/-- **Both modes of loading, and both checks of documents.**  A mapping is loaded strictly just when
it is loaded leniently without a warning of an unknown type, as the same tree.  If a lenient load
succeeds with warnings, the strict one refuses the type that the first of them names.  A document
that is accepted with the check of its version and strictly is accepted whatever is asked for, as
the same tree and without a notice. -/
theorem load_modes :
    (∀ (data : Value) (n : Node), (ofDict true data).result = .ok n
        ↔ (ofDict false data).result = .ok n
          ∧ ∀ name, .unknownNodeType name ∉ (ofDict false data).log)
      ∧ (∀ (data : Value) (n : Node) (before : List Notice) (name : Value) (after : List Notice),
          (ofDict false data).result = .ok n →
          (ofDict false data).log = before ++ .unknownNodeType name :: after →
          (∀ name', .unknownNodeType name' ∉ before) →
          (ofDict true data).result = .error (.invalid (.unknownNodeType name)))
      ∧ ∀ (document : Text) (n : Node), (ofJson true true document).result = .ok n →
          ∀ validate strict, ofJson validate strict document = pure n := by
  refine ⟨fun data n => (refuses_ofDict data).strict_eq_ok, ?_, ?_⟩
  · intro data n before name after _ hlog hbefore
    rw [(refuses_ofDict data).strict_eq_error hlog hbefore]
    rfl
  · intro document n h validate strict
    rw [ofJson] at h ⊢
    cases hread : Json.read document with
    | ok data =>
      rw [hread] at h
      exact ofDocument_eq_pure h validate strict
    | error e =>
      rw [hread] at h
      cases h

/-- An element of an unknown type around another, which is warned of behind it, and the document of
an empty paragraph. -/
theorem load_modes_sample :
    let inner : Value := .dict [(.text "node_type", .text "b")]
    let data : Value := .dict [(.text "node_type", .text "a"), (.text "children", .list [inner])]
    let document : Text := "\x7b\"node_type\": \"paragraph\"\x7d"
    (∃ n, (ofDict false data).result = .ok n
        ∧ (ofDict false data).log = [.unknownNodeType (.text "a"), .unknownNodeType (.text "b")]
        ∧ (ofDict true data).result = .error (.invalid (.unknownNodeType (.text "a"))))
      ∧ (ofJson true true document).result = .ok (branch .paragraph [] (.dict []))
      ∧ ∀ validate strict,
        ofJson validate strict document = pure (branch .paragraph [] (.dict [])) := by
  intro inner data document
  obtain ⟨-, hfirst, hboth⟩ := load_modes
  have hinner : ∃ m, ofDict false inner = ⟨[.unknownNodeType (.text "b")], .ok m⟩ := by
    rw [ofDict_dict, outline_of_unknown rfl (List.cons_ne_nil _ _) rfl]
    exact ⟨_, rfl⟩
  obtain ⟨m, hinner⟩ := hinner
  have hload : ∃ n, ofDict false data
      = ⟨[.unknownNodeType (.text "a"), .unknownNodeType (.text "b")], .ok n⟩ := by
    have hchildren : ofField false (some (.list [inner]))
        = ⟨[.unknownNodeType (.text "b")], .ok [m]⟩ := by
      rw [ofField, ofChildren, ofDicts, hinner, ofDicts]
      rfl
    have hfield : Value.field? "children" [(.text "node_type", .text "a"),
        (.text "children", .list [inner])] = some (.list [inner]) := rfl
    rw [ofDict_dict, outline_of_unknown rfl (List.cons_ne_nil _ _) rfl]
    simp only [Bool.false_eq_true, if_false, bind_pure_comp, bind_map_left, Branch.childField,
      hfield, hchildren]
    exact ⟨_, rfl⟩
  obtain ⟨n, hload⟩ := hload
  have hdocument : (ofJson true true document).result = .ok (branch .paragraph [] (.dict [])) := by
    let fields : Fields := [("node_type", .text "paragraph")]
    have hdata : (Value.dict fields.entries).IsData :=
      .dict (List.pairwise_singleton _ _) (List.forall_mem_singleton.mpr (.text _))
    have hwrite : Json.write none (.dict fields.entries) = .ok document := rfl
    rw [ofJson_of_write hdata (of_decide_eq_true rfl) hwrite, ofDict_dict]
    rfl
  refine ⟨⟨n, ?_, ?_, ?_⟩, hdocument, hboth _ _ hdocument⟩
  · rw [hload]
  · rw [hload]
  · refine hfirst data n [] _ [.unknownNodeType (.text "b")] ?_ ?_ fun _ => List.not_mem_nil
    · rw [hload]
    · rw [hload]
      rfl

end Node

end RichText
