import RichText.Proofs.Override

/-!
# Proofs/Making — options made one from another

    options ──change──▸ options ──change──▸ options        one change, in which the later values win
    options made so far ──call──▸ the same, and one more   all of them sound

Every call is an update of options that are there (`Options.Call.result_eq`), so what updates preserve holds
of all that calls make.
-/

namespace RichText.Options

variable {o p : Options} {older : Fields}

/-! ## Chains -/

/-- **A change to options**: an update, or a merge. -/
inductive Override
  | update (given : Fields)
  | merge (kind : OptionsKind) (type : Text) (given : Fields)

namespace Override

/-- What comes of a change. -/
def apply (o : Options) : Override → Except Failure Options
  | update given => o.update given
  | merge kind type given => (Options.merge kind type (some o) given).result

/-- The values of a change that are for fields. -/
def taken : Override → Fields
  | update given => given
  | merge kind _ given => ofKind kind given

/-- The values of changes, one behind another; of those for one field, the last one. -/
def winning (older : Fields) (overrides : List Override) : Fields :=
  overrides.foldl (fun older change => change.taken.replacing older) older

theorem apply_eq (h : o.fields.IsSound) (change : Override) :
    change.apply o = o.update change.taken := by
  cases change with
  | update given => rfl
  | merge kind type given =>
    rw [apply, merge_eq (fun _ ho => Option.some.inj ho ▸ h), Option.getD_some, taken]

/-- **A chain of changes is one update**, in which the later values win: to options that are an update
themselves, the changes are one with it. -/
theorem update_winning {base : Options} {overrides : List Override} (hbase : base.update older = .ok o)
    (h : overrides.foldlM apply o = .ok p) : base.update (winning older overrides) = .ok p := by
  induction overrides generalizing o older with
  | nil =>
    cases h
    exact hbase
  | cons change rest ih =>
    rw [List.foldlM_cons] at h
    obtain ⟨next, hnext, hrest⟩ := except_bind_eq_ok.mp h
    have hsound : o.fields.IsSound := (update_eq_ok_iff.mp hbase).2.2.2
    rw [apply_eq hsound] at hnext
    exact ih (update_update hbase hnext) hrest

/-- A chain of changes is one merge. -/
theorem merge_winning {options : Option Options} {overrides : List Override} (kind : OptionsKind)
    (type : Text) (hoptions : ∀ o, options = some o → o.kind = kind ∧ o.fields.IsSound)
    (hbase : (options.getD (standard kind)).update older = .ok o)
    (h : overrides.foldlM apply o = .ok p) :
    (Options.merge kind type options (winning older overrides)).result = .ok p := by
  have hupdate := update_winning hbase h
  have hkind : (options.getD (standard kind)).kind = kind := by
    cases options with
    | none => cases kind <;> rfl
    | some o => exact (hoptions o rfl).1
  have hnames := (update_eq_ok_iff.mp hupdate).1
  rw [hkind] at hnames
  rw [merge_eq fun o ho => (hoptions o ho).2, ofKind_eq_self hnames, hupdate]

end Override

/-! ## Everything made so far -/

/-- **A call that makes options**, from nothing or from those made before at a place. -/
inductive Call
  | create (kind : OptionsKind) (given : Fields)
  | merge (kind : OptionsKind) (type : Text) (given : Fields)
  | override (place : Nat) (change : Override)

namespace Call

variable {made : List Options} {call : Call} {calls : List Call}

/-- The options that a call makes behind others. -/
def result (made : List Options) : Call → Except Failure Options
  | create kind given => Options.create kind given
  | merge kind type given => (Options.merge kind type none given).result
  | override place change =>
    match made[place]? with
    | some o => change.apply o
    | none => .error .noPlace

/-- The options that a call starts from. -/
def base? (made : List Options) : Call → Option Options
  | create kind _ => some (standard kind)
  | merge kind _ _ => some (standard kind)
  | override place _ => made[place]?

/-- The values of a call that are for fields. -/
def taken : Call → Fields
  | create _ given => given
  | merge kind _ given => ofKind kind given
  | override _ change => change.taken

/-- All options behind a call; where it fails there are no new ones. -/
def after (made : List Options) (call : Call) : List Options :=
  match call.result made with
  | .ok o => made ++ [o]
  | .error _ => made

/-- All options behind calls. -/
def run (made : List Options) (calls : List Call) : List Options := calls.foldl after made

/-- **One call** is an update of the options that it starts from. -/
theorem result_eq (hmade : ∀ o ∈ made, o.fields.IsSound) (call : Call) :
    call.result made = match call.base? made with
      | some base => base.update call.taken
      | none => .error .noPlace := by
  cases call with
  | create kind given => rfl
  | merge kind type given =>
    rw [result, merge_eq fun _ (ho : none = some _) => by cases ho]
    rfl
  | override place change =>
    rw [result, base?]
    cases ho : made[place]? with
    | none => rfl
    | some o => exact Override.apply_eq (hmade o (List.mem_of_getElem? ho)) change

/-- What is asked of standard options and of those made before is asked of what a call starts from. -/
theorem of_base? {P : Options → Prop} (hstandard : ∀ kind, P (standard kind)) (hmade : ∀ o ∈ made, P o)
    {base : Options} (h : call.base? made = some base) : P base := by
  cases call with
  | create kind given => exact Option.some.inj h ▸ hstandard kind
  | merge kind type given => exact Option.some.inj h ▸ hstandard kind
  | override place change => exact hmade base (List.mem_of_getElem? h)

/-- **A step**: what a call makes is sound, and has an integer for the size limit if everything before it has
one and no other is given to it. -/
theorem isSound_of_result (hmade : ∀ o ∈ made, o.fields.IsSound) (h : call.result made = .ok p) :
    p.fields.IsSound ∧ ((∀ o ∈ made, o.fields.HasIntegerLimit) → call.taken.HasIntegerLimit →
      p.fields.HasIntegerLimit) := by
  rw [result_eq hmade] at h
  split at h
  · next base hbase =>
    obtain ⟨-, -, hfields, hsound⟩ := update_eq_ok_iff.mp h
    refine ⟨hsound, fun hinteger htaken => ?_⟩
    have hstandard (kind : OptionsKind) : (standard kind).fields.HasIntegerLimit := by
      intro v hv
      cases kind <;> cases hv <;> exact ⟨_, rfl⟩
    rw [hfields]
    exact (of_base? hstandard hinteger hbase).overlaid htaken
  · cases h

/-- **A run**: what every call preserves holds of everything that calls make. -/
theorem forall_run {P : Options → Prop}
    (hcalls : ∀ call ∈ calls, ∀ made p, (∀ o ∈ made, P o) → result made call = .ok p → P p)
    (hmade : ∀ o ∈ made, P o) : ∀ o ∈ run made calls, P o := by
  induction calls generalizing made with
  | nil => exact hmade
  | cons call rest ih =>
    refine ih (fun call hcall => hcalls call (List.mem_cons_of_mem _ hcall)) fun o ho => ?_
    rw [after] at ho
    split at ho
    · next p hresult =>
      rcases List.mem_append.mp ho with ho | ho
      · exact hmade o ho
      · exact List.mem_singleton.mp ho ▸ hcalls call List.mem_cons_self made p hmade hresult
    · exact hmade o ho

/-- Calls leave the options alone that were there before. -/
theorem isPrefix_run (made : List Options) (calls : List Call) : made <+: run made calls := by
  induction calls generalizing made with
  | nil => exact List.prefix_rfl
  | cons call rest ih =>
    refine List.IsPrefix.trans ?_ (ih (after made call))
    rw [after]
    split
    · exact List.prefix_append _ _
    · exact List.prefix_rfl

/-- **All options that calls make are sound.** -/
theorem isSound_run (hmade : ∀ o ∈ made, o.fields.IsSound) :
    ∀ o ∈ run made calls, o.fields.IsSound :=
  forall_run (fun _ _ _ _ hmade hresult => (isSound_of_result hmade hresult).1) hmade

/-- **Size limits are above zero** in all options that are made with integers for them. -/
theorem exists_limit_run
    (hmade : ∀ o ∈ made, o.fields.IsSound ∧ o.fields.HasIntegerLimit)
    (hcalls : ∀ call ∈ calls, call.taken.HasIntegerLimit) :
    ∀ o ∈ run made calls, ∀ v, o.fields.get? "max_asset_size_bytes" = some v →
      ∃ n : Int, v.int? = some n ∧ 0 < n := by
  have hboth : ∀ o ∈ run made calls, o.fields.IsSound ∧ o.fields.HasIntegerLimit := by
    refine forall_run (fun call hcall made p hmade hresult => ?_) hmade
    have hstep := isSound_of_result (fun o ho => (hmade o ho).1) hresult
    exact ⟨hstep.1, hstep.2 (fun o ho => (hmade o ho).2) (hcalls call hcall)⟩
  exact fun o ho v => (hboth o ho).1.exists_pos (hboth o ho).2

/-- **What a call comes to**, where it only names fields and its size limit is an integer: the options with
those fields, or the failure of what breaks them. -/
theorem result_cases (hmade : ∀ o ∈ made, o.fields.IsSound) {base : Options}
    (hbase : call.base? made = some base) (hnames : ∀ n ∈ call.taken.names, n ∈ base.kind.fieldNames)
    (htaken : call.taken.HasIntegerLimit) :
    ((base.fields.overlaid call.taken).IsSound ∧ ∃ p, call.result made = .ok p ∧ p.kind = base.kind
        ∧ p.fields = base.fields.overlaid call.taken)
      ∨ ∃ why, (base.fields.overlaid call.taken).Breaks why
        ∧ call.result made = .error (.invalid why) := by
  have hresult : call.result made = base.update call.taken := by rw [result_eq hmade, hbase]
  rw [hresult]
  obtain hsound | ⟨why, hwhy⟩ := (of_base? isSound_standard hmade hbase).overlaid htaken
  · exact .inl ⟨hsound, exists_update hnames hsound⟩
  · exact .inr ⟨why, hwhy, update_eq_invalid_iff.mpr ⟨hnames, hwhy⟩⟩

end Call

end RichText.Options
