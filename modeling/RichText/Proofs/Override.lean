import RichText.Options

/-!
# Proofs/Override — options made from other options

    options, given fields ──update──▸ options of the same kind, with the given fields in their place

An update takes the fields that are given to it, and the others from the options it starts from
(`Fields.overlaid`); it succeeds just where the fields that it comes to are sound.  All of this is said once
(`Options.updated`).  A merge is an update by the values that are for fields (`Options.merge_eq`).
-/

namespace RichText

/-! ## Fields in the place of others -/

namespace Fields

variable {fields given older newer : Fields} {keep : Text → Bool} {n : Text} {v : Value}

/-- Fields with given values in the place of their own. -/
def overlaid (fields given : Fields) : Fields := fields.map fun f => (f.1, given.getD f.1 f.2)

/-- Newer fields, and those older ones that they do not name. -/
def replacing (newer older : Fields) : Fields :=
  newer ++ older.filter fun f => !newer.names.contains f.1

theorem get?_cons (f : Text × Value) (rest : Fields) (n : Text) :
    get? (f :: rest) n = if f.1 = n then some f.2 else rest.get? n := by
  rw [get?, List.find?_cons]
  by_cases hname : f.1 = n
  · rw [if_pos hname, beq_iff_eq.mpr hname]
    rfl
  · rw [if_neg hname, beq_eq_false_iff_ne.mpr hname]
    rfl

theorem get?_append (fields more : Fields) (n : Text) :
    get? (fields ++ more) n = (fields.get? n).or (more.get? n) := by
  rw [get?, List.find?_append, Option.map_or]
  rfl

theorem get?_filter (fields : Fields) (keep : Text → Bool) (n : Text) :
    get? (fields.filter fun f => keep f.1) n = if keep n then fields.get? n else none := by
  induction fields with
  | nil => exact (ite_self none).symm
  | cons f rest ih =>
    rw [List.filter_cons, get?_cons]
    by_cases hname : f.1 = n
    · subst hname
      cases hkeep : keep f.1 <;> simp [get?_cons, ih, hkeep]
    · cases hkeep : keep f.1 <;> simp [get?_cons, ih, hname]

theorem mem_names_of_filter {keep : Text × Value → Bool} (h : n ∈ names (fields.filter keep)) :
    n ∈ fields.names := by
  obtain ⟨f, hf, rfl⟩ := List.mem_map.mp h
  exact List.mem_map_of_mem (List.mem_filter.mp hf).1

theorem get?_eq_none_iff : fields.get? n = none ↔ n ∉ fields.names := by
  induction fields with
  | nil => exact ⟨fun _ => List.not_mem_nil, fun _ => rfl⟩
  | cons f rest ih =>
    rw [get?_cons, names, List.map_cons, List.mem_cons, ← names, not_or, ← ih]
    by_cases hname : n = f.1
    · simp [hname]
    · simp [hname, Ne.symm hname]

/-- Newer values come before older ones. -/
theorem get?_replacing (newer older : Fields) (n : Text) :
    (newer.replacing older).get? n = (newer.get? n).or (older.get? n) := by
  rw [replacing, get?_append, get?_filter older fun n => !newer.names.contains n]
  cases hget : newer.get? n with
  | some v => rfl
  | none =>
    rw [get?_eq_none_iff] at hget
    simp [hget]

theorem mem_names_replacing (h : n ∈ (newer.replacing older).names) :
    n ∈ newer.names ∨ n ∈ older.names := by
  rw [replacing, names, List.map_append] at h
  exact (List.mem_append.mp h).imp_right mem_names_of_filter

/-- Overlaying changes the values of fields and adds none. -/
theorem get?_overlaid (fields given : Fields) (n : Text) :
    (fields.overlaid given).get? n = (fields.get? n).map (given.getD n) := by
  induction fields with
  | nil => rfl
  | cons f rest ih =>
    rw [overlaid, List.map_cons, get?_cons, get?_cons, ← overlaid, ih]
    by_cases hname : f.1 = n
    · subst hname
      rw [if_pos rfl, if_pos rfl, Option.map_some]
    · rw [if_neg hname, if_neg hname]

/-- A value in the place of another is given, or it is the other. -/
theorem get?_of_overlaid (h : (fields.overlaid given).get? n = some v) :
    given.get? n = some v ∨ fields.get? n = some v := by
  rw [get?_overlaid, Option.map_eq_some_iff] at h
  obtain ⟨w, hw, rfl⟩ := h
  rw [getD]
  cases given.get? n with
  | none => exact .inr hw
  | some u => exact .inl rfl

theorem overlaid_nil (fields : Fields) : fields.overlaid [] = fields := List.map_id fields

/-- Two choices, one put in the place of the other, are one: the newer, and what it leaves of the older. -/
theorem overlaid_overlaid (fields older newer : Fields) :
    (fields.overlaid older).overlaid newer = fields.overlaid (newer.replacing older) := by
  rw [overlaid, overlaid, overlaid, List.map_map]
  refine List.map_congr_left fun f _ => ?_
  simp only [Function.comp_apply, getD, get?_replacing]
  cases newer.get? f.1 <;> rfl

/-- Only the names of fields matter. -/
theorem overlaid_filter (h : ∀ n ∈ fields.names, keep n = true) :
    fields.overlaid (given.filter fun f => keep f.1) = fields.overlaid given := by
  refine List.map_congr_left fun f hf => ?_
  rw [getD, get?_filter, if_pos (h f.1 (List.mem_map_of_mem hf)), ← getD]

end Fields

/-! ## Sound fields -/

/-- Whether a value is a size limit: an integer above zero, or a float that is not at most zero. -/
inductive Value.IsLimit : Value → Prop
  | integer {v : Value} {n : Int} (h : v.int? = some n) (hn : 0 < n) : IsLimit v
  | float {x : Binary64} (h : x.leInt 0 = false) : IsLimit (.float x)

/-- Whether a value is a number that is zero or below. -/
inductive Value.IsAtMostZero : Value → Prop
  | integer {v : Value} {n : Int} (h : v.int? = some n) (hn : n ≤ 0) : IsAtMostZero v
  | float {x : Binary64} (h : x.leInt 0 = true) : IsAtMostZero (.float x)

theorem Value.IsLimit.not_isAtMostZero {v : Value} (h : v.IsLimit) : ¬ v.IsAtMostZero := by
  intro h'
  cases h with
  | integer hint hn =>
    cases h' with
    | integer hint' hn' =>
      obtain rfl := Option.some.inj (hint.symm.trans hint')
      omega
    | float => cases hint
  | float hx =>
    cases h' with
    | integer hint' => cases hint'
    | float hx' => exact Bool.false_ne_true (hx.symm.trans hx')

/-- **Whether fields keep what is asked of options**: a size limit, and one of two escaping modes. -/
structure Fields.IsSound (fields : Fields) : Prop where
  limit {v : Value} (h : fields.get? "max_asset_size_bytes" = some v) : v.IsLimit
  mode {v : Value} (h : fields.get? "unicode_mode" = some v) : v = .text "utf16" ∨ v = .text "codepoint"

/-- **What breaks fields**, the size limit first. -/
inductive Fields.Breaks (fields : Fields) : Invalid → Prop
  | assetSize {v : Value} (hget : fields.get? "max_asset_size_bytes" = some v) (hv : v.IsAtMostZero) :
    Breaks fields (.assetSize v)
  | unicodeMode {v : Value} (hlimit : ∀ w, fields.get? "max_asset_size_bytes" = some w → w.IsLimit)
    (hget : fields.get? "unicode_mode" = some v) (hutf16 : v ≠ .text "utf16")
    (hcodepoint : v ≠ .text "codepoint") : Breaks fields (.unicodeMode v)

/-- Whether the size limit among fields, where there is one, is an integer. -/
def Fields.HasIntegerLimit (fields : Fields) : Prop :=
  ∀ v, fields.get? "max_asset_size_bytes" = some v → ∃ n : Int, v.int? = some n

theorem Fields.HasIntegerLimit.filter {fields : Fields} (h : fields.HasIntegerLimit)
    (keep : Text → Bool) : HasIntegerLimit (fields.filter fun f => keep f.1) := by
  intro v hv
  rw [get?_filter, Option.ite_none_right_eq_some] at hv
  exact h v hv.2

theorem Fields.HasIntegerLimit.overlaid {fields given : Fields} (h : fields.HasIntegerLimit)
    (hgiven : given.HasIntegerLimit) : (fields.overlaid given).HasIntegerLimit :=
  fun v hv => (get?_of_overlaid hv).elim (hgiven v) (h v)

theorem Fields.IsSound.exists_pos {fields : Fields} (h : fields.IsSound)
    (hinteger : fields.HasIntegerLimit) {v : Value}
    (hget : fields.get? "max_asset_size_bytes" = some v) : ∃ n : Int, v.int? = some n ∧ 0 < n := by
  obtain ⟨n, hn⟩ := hinteger v hget
  cases h.limit hget with
  | integer hint hpos => exact ⟨_, hint, hpos⟩
  | float => cases hn

/-- Sound fields are not broken. -/
theorem Fields.IsSound.not_breaks {fields : Fields} {why : Invalid} (h : fields.IsSound) :
    ¬ fields.Breaks why := by
  intro hbreaks
  cases hbreaks with
  | assetSize hget hv => exact (h.limit hget).not_isAtMostZero hv
  | unicodeMode _ hget hutf16 hcodepoint => exact (h.mode hget).elim hutf16 hcodepoint

/-- Fields are broken for one reason, as the limit is looked at first. -/
theorem Fields.Breaks.unique {fields : Fields} {why why' : Invalid} (h : fields.Breaks why)
    (h' : fields.Breaks why') : why = why' := by
  cases h with
  | assetSize hget hv =>
    cases h' with
    | assetSize hget' _ => rw [Option.some.inj (hget.symm.trans hget')]
    | unicodeMode hlimit _ _ _ => exact absurd hv (hlimit _ hget).not_isAtMostZero
  | unicodeMode hlimit hget _ _ =>
    cases h' with
    | assetSize hget' hv => exact absurd hv (hlimit _ hget').not_isAtMostZero
    | unicodeMode _ hget' _ _ => rw [Option.some.inj (hget.symm.trans hget')]

/-- Nothing breaks fields before their size limit is a number. -/
theorem Fields.Breaks.isLimit_or {fields : Fields} {why : Invalid} (h : fields.Breaks why) {v : Value}
    (hget : fields.get? "max_asset_size_bytes" = some v) : v.IsLimit ∨ v.IsAtMostZero := by
  cases h with
  | assetSize hget' hv => exact .inr (Option.some.inj (hget'.symm.trans hget) ▸ hv)
  | unicodeMode hlimit _ _ _ => exact .inl (hlimit v hget)

/-- Fields with a number for the size limit are sound, or something breaks them. -/
theorem Fields.isSound_or_breaks {fields : Fields}
    (h : ∀ v, fields.get? "max_asset_size_bytes" = some v → v.IsLimit ∨ v.IsAtMostZero) :
    fields.IsSound ∨ ∃ why, fields.Breaks why := by
  by_cases hzero : ∃ v, fields.get? "max_asset_size_bytes" = some v ∧ v.IsAtMostZero
  · obtain ⟨v, hget, hv⟩ := hzero
    exact .inr ⟨_, .assetSize hget hv⟩
  · have hlimit (v : Value) (hget : fields.get? "max_asset_size_bytes" = some v) : v.IsLimit :=
      (h v hget).resolve_right fun hv => hzero ⟨v, hget, hv⟩
    by_cases hmode : ∀ v, fields.get? "unicode_mode" = some v → v = .text "utf16" ∨ v = .text "codepoint"
    · exact .inl ⟨fun hget => hlimit _ hget, fun hget => hmode _ hget⟩
    · simp only [Classical.not_forall, not_or] at hmode
      obtain ⟨v, hget, hutf16, hcodepoint⟩ := hmode
      exact .inr ⟨_, .unicodeMode hlimit hget hutf16 hcodepoint⟩

/-- Sound fields with other values are sound, or something breaks them. -/
theorem Fields.IsSound.overlaid {fields given : Fields} (h : fields.IsSound)
    (hgiven : given.HasIntegerLimit) :
    (fields.overlaid given).IsSound ∨ ∃ why, (fields.overlaid given).Breaks why := by
  refine isSound_or_breaks fun v hv => ?_
  obtain hget | hget := get?_of_overlaid hv
  · obtain ⟨n, hn⟩ := hgiven v hget
    by_cases hpos : 0 < n
    · exact .inl (.integer hn hpos)
    · exact .inr (.integer hn (Int.not_lt.mp hpos))
  · exact .inl (h.limit hget)

namespace Options

variable {o p q : Options} {given older newer : Fields} {n : Text} {v : Value} {why : Invalid}

/-- What comes of checking a size limit. -/
theorem checkAssetSize_cases (v : Value) :
    (v.IsLimit ∧ checkAssetSize v = .ok ())
      ∨ (v.IsAtMostZero ∧ checkAssetSize v = .error (.invalid (.assetSize v)))
      ∨ (¬ v.IsLimit ∧ ¬ v.IsAtMostZero ∧ checkAssetSize v = .error .misuse) := by
  have hinteger {v : Value} {n : Int} (hint : v.int? = some n)
      (hcheck : checkAssetSize v = if n ≤ 0 then .error (.invalid (.assetSize v)) else .ok ()) :
      (v.IsLimit ∧ checkAssetSize v = .ok ())
        ∨ (v.IsAtMostZero ∧ checkAssetSize v = .error (.invalid (.assetSize v))) := by
    by_cases hn : n ≤ 0
    · exact .inr ⟨.integer hint hn, by rw [hcheck, if_pos hn]⟩
    · exact .inl ⟨.integer hint (Int.not_le.mp hn), by rw [hcheck, if_neg hn]⟩
  cases v with
  | int n =>
    refine (hinteger rfl ?_).imp_right .inl
    by_cases hn : n ≤ 0 <;> simp [checkAssetSize, Value.int?, hn]
  | bool b =>
    refine (hinteger rfl ?_).imp_right .inl
    cases b <;> rfl
  | float x =>
    cases hx : x.leInt 0 with
    | false => exact .inl ⟨.float hx, by rw [checkAssetSize, hx]⟩
    | true => exact .inr (.inl ⟨.float hx, by rw [checkAssetSize, hx]⟩)
  | _ =>
    refine .inr (.inr ⟨fun h => ?_, fun h => ?_, rfl⟩)
    all_goals
      cases h with
      | integer hint _ => cases hint

/-- What comes of reading an escaping mode. -/
theorem modeOf_cases (v : Value) :
    (∃ mode : Rtf.UnicodeMode, v = .text mode.name ∧ modeOf v = .ok mode)
      ∨ (v ≠ .text "utf16" ∧ v ≠ .text "codepoint" ∧ modeOf v = .error (.invalid (.unicodeMode v))) := by
  cases v with
  | text t =>
    by_cases hutf16 : t = "utf16"
    · subst hutf16
      exact .inl ⟨.utf16, rfl, rfl⟩
    · by_cases hcodepoint : t = "codepoint"
      · subst hcodepoint
        exact .inl ⟨.codepoint, rfl, rfl⟩
      · refine .inr ⟨fun h => hutf16 (Value.text.inj h), fun h => hcodepoint (Value.text.inj h), ?_⟩
        simp [modeOf, Value.text?, Rtf.UnicodeMode.ofName?, hutf16, hcodepoint]
  | _ => exact .inr ⟨nofun, nofun, rfl⟩

/-- What comes of the fields of every renderer. -/
theorem rendererWith_cases (r : RendererOptions) (given : Fields) :
    let limit := given.getD "max_asset_size_bytes" r.maxAssetSize
    (limit.IsLimit ∧ rendererWith r given
        = .ok ⟨given.getD "fail_on_resource_errors" r.failOnResourceErrors, limit⟩)
      ∨ (limit.IsAtMostZero ∧ rendererWith r given = .error (.invalid (.assetSize limit)))
      ∨ (¬ limit.IsLimit ∧ ¬ limit.IsAtMostZero ∧ rendererWith r given = .error .misuse) := by
  intro limit
  obtain ⟨hlimit, hcheck⟩ | ⟨hzero, hcheck⟩ | ⟨hlimit, hzero, hcheck⟩ := checkAssetSize_cases limit
  · exact .inl ⟨hlimit, by rw [rendererWith, hcheck]; rfl⟩
  · exact .inr (.inl ⟨hzero, by rw [rendererWith, hcheck]; rfl⟩)
  · exact .inr (.inr ⟨hlimit, hzero, by rw [rendererWith, hcheck]; rfl⟩)

/-- **What comes of an update.**  Names that are no fields are refused first, and then the size limit and
the escaping mode of the fields that it comes to. -/
inductive Updated (o : Options) (given : Fields) : Except Failure Options → Prop
  | unknown {n : Text} (hn : n ∈ given.names) (hfield : n ∉ o.kind.fieldNames) :
    Updated o given (.error .misuse)
  | noNumber {v : Value} (hnames : ∀ n ∈ given.names, n ∈ o.kind.fieldNames)
    (hget : (o.fields.overlaid given).get? "max_asset_size_bytes" = some v) (hlimit : ¬ v.IsLimit)
    (hzero : ¬ v.IsAtMostZero) : Updated o given (.error .misuse)
  | broken {why : Invalid} (hnames : ∀ n ∈ given.names, n ∈ o.kind.fieldNames)
    (hwhy : (o.fields.overlaid given).Breaks why) : Updated o given (.error (.invalid why))
  | made {p : Options} (hnames : ∀ n ∈ given.names, n ∈ o.kind.fieldNames) (hkind : p.kind = o.kind)
    (hfields : p.fields = o.fields.overlaid given) (hsound : p.fields.IsSound) :
    Updated o given (.ok p)

theorem updated_renderer (r : RendererOptions)
    (hnames : ∀ n ∈ given.names, n ∈ OptionsKind.renderer.fieldNames) :
    Updated (renderer r) given (renderer <$> rendererWith r given) := by
  obtain ⟨hlimit, hwith⟩ | ⟨hzero, hwith⟩ | ⟨hlimit, hzero, hwith⟩ := rendererWith_cases r given
  · rw [hwith]
    refine .made hnames rfl rfl ⟨fun h => ?_, nofun⟩
    cases h
    exact hlimit
  · rw [hwith]
    exact .broken hnames (.assetSize rfl hzero)
  · rw [hwith]
    exact .noNumber hnames rfl hlimit hzero

theorem updated_rtf (r : RtfOptions) (hnames : ∀ n ∈ given.names, n ∈ OptionsKind.rtf.fieldNames) :
    Updated (rtf r) given (do
      let base ← rendererWith r.toRendererOptions given
      let mode ← modeOf (given.getD "unicode_mode" (.text r.unicodeMode.name))
      return rtf ⟨base, given.getD "base_url" r.baseUrl, given.getD "embed_images" r.embedImages,
        given.getD "source_directory" r.sourceDirectory, mode⟩) := by
  obtain ⟨hlimit, hwith⟩ | ⟨hzero, hwith⟩ | ⟨hlimit, hzero, hwith⟩ :=
    rendererWith_cases r.toRendererOptions given
  · rw [hwith]
    obtain ⟨mode, hmode, hread⟩ | ⟨hutf16, hcodepoint, hread⟩ :=
      modeOf_cases (given.getD "unicode_mode" (.text r.unicodeMode.name))
    · rw [hread]
      refine .made hnames rfl ?_ ⟨fun h => ?_, fun h => ?_⟩
      · rw [fields, ← hmode]
        rfl
      · cases h
        exact hlimit
      · cases h
        cases mode
        · exact .inl rfl
        · exact .inr rfl
    · rw [hread]
      exact .broken hnames (.unicodeMode (fun w hw => by cases hw; exact hlimit) rfl hutf16 hcodepoint)
  · rw [hwith]
    exact .broken hnames (.assetSize rfl hzero)
  · rw [hwith]
    exact .noNumber hnames rfl hlimit hzero

/-- **An update ends in one of four ways**, whatever kind of options it is of. -/
theorem updated (o : Options) (given : Fields) : Updated o given (o.update given) := by
  rw [update.eq_def]
  split
  · next hunknown =>
    obtain ⟨n, hn, hfield⟩ := List.any_eq_true.mp hunknown
    exact .unknown hn (by simpa using hfield)
  · next hknown =>
    have hnames : ∀ n ∈ given.names, n ∈ o.kind.fieldNames := by simpa using hknown
    cases o with
    | renderer r => exact updated_renderer r hnames
    | rtf r => exact updated_rtf r hnames
    | parser => exact .made hnames rfl rfl ⟨nofun, nofun⟩
    | markdown m => exact .made hnames rfl rfl ⟨nofun, nofun⟩

/-- Options are what their fields are. -/
theorem eq_of_fields (hkind : p.kind = q.kind) (hfields : p.fields = q.fields) : p = q := by
  cases p <;> cases q <;> cases hkind
  case renderer.renderer r r' =>
    cases r; cases r'
    simpa [fields] using hfields
  case rtf.rtf r r' =>
    obtain ⟨⟨_, _⟩, _, _, _, mode⟩ := r
    obtain ⟨⟨_, _⟩, _, _, _, mode'⟩ := r'
    have hmode (h : mode.name = mode'.name) : mode = mode' := by
      cases mode <;> cases mode' <;> first | rfl | cases h
    simp only [fields, List.cons.injEq, Prod.mk.injEq, true_and, Value.text.injEq, and_true] at hfields
    obtain ⟨rfl, rfl, rfl, rfl, rfl, hname⟩ := hfields
    rw [hmode hname]
  case parser.parser => rfl
  case markdown.markdown m m' =>
    cases m; cases m'
    simpa [fields] using hfields

theorem rtf_of_fields {r r' : RtfOptions} (h : (rtf r).fields = (rtf r').fields) : r = r' :=
  rtf.inj (eq_of_fields rfl h)

theorem markdown_of_fields {m m' : MarkdownOptions} (h : (markdown m).fields = (markdown m').fields) :
    m = m' :=
  markdown.inj (eq_of_fields rfl h)

/-- An update to fields that are sound gives the options that have them. -/
theorem exists_update (hnames : ∀ n ∈ given.names, n ∈ o.kind.fieldNames)
    (hsound : (o.fields.overlaid given).IsSound) :
    ∃ p, o.update given = .ok p ∧ p.kind = o.kind ∧ p.fields = o.fields.overlaid given := by
  have h := updated o given
  generalize o.update given = done at h
  cases h with
  | unknown hn hfield => exact absurd (hnames _ hn) hfield
  | noNumber _ hget hlimit _ => exact absurd (hsound.limit hget) hlimit
  | broken _ hwhy => exact absurd hwhy hsound.not_breaks
  | made _ hkind hfields _ => exact ⟨_, rfl, hkind, hfields⟩

/-- **An update succeeds** just where it names fields of the kind, and what comes of it is sound. -/
theorem update_eq_ok_iff : o.update given = .ok p ↔ (∀ n ∈ given.names, n ∈ o.kind.fieldNames)
    ∧ p.kind = o.kind ∧ p.fields = o.fields.overlaid given ∧ p.fields.IsSound := by
  constructor
  · intro hupdate
    have h := updated o given
    rw [hupdate] at h
    cases h with
    | made hnames hkind hfields hsound => exact ⟨hnames, hkind, hfields, hsound⟩
  · rintro ⟨hnames, hkind, hfields, hsound⟩
    obtain ⟨q, hupdate, hkind', hfields'⟩ := exists_update hnames (hfields ▸ hsound)
    rw [hupdate, eq_of_fields (hkind'.trans hkind.symm) (hfields'.trans hfields.symm)]

/-- **An update is refused** for what it breaks. -/
theorem update_eq_invalid_iff : o.update given = .error (.invalid why)
    ↔ (∀ n ∈ given.names, n ∈ o.kind.fieldNames) ∧ (o.fields.overlaid given).Breaks why := by
  have h := updated o given
  generalize o.update given = done at h
  cases h with
  | unknown hn hfield => exact ⟨nofun, fun h => absurd (h.1 _ hn) hfield⟩
  | noNumber _ hget hlimit hzero =>
    exact ⟨nofun, fun h => ((h.2.isLimit_or hget).elim hlimit hzero).elim⟩
  | broken hnames hwhy =>
    refine ⟨fun h => ?_, fun h => by rw [hwhy.unique h.2]⟩
    cases h
    exact ⟨hnames, hwhy⟩
  | made _ _ hfields hsound => exact ⟨nofun, fun h => absurd h.2 (hfields ▸ hsound).not_breaks⟩

theorem update_nil (h : o.fields.IsSound) : o.update [] = .ok o :=
  update_eq_ok_iff.mpr ⟨fun _ => nofun, rfl, (Fields.overlaid_nil _).symm, h⟩

/-- **Two updates, one after the other, are one**, in which the later values win. -/
theorem update_update (hp : o.update older = .ok p) (hq : p.update newer = .ok q) :
    o.update (newer.replacing older) = .ok q := by
  obtain ⟨holder, hkind, hfields, -⟩ := update_eq_ok_iff.mp hp
  obtain ⟨hnewer, hkind', hfields', hsound⟩ := update_eq_ok_iff.mp hq
  refine update_eq_ok_iff.mpr ⟨fun n hn => ?_, hkind'.trans hkind, ?_, hsound⟩
  · exact (Fields.mem_names_replacing hn).elim (fun hn => hkind ▸ hnewer n hn) (holder n)
  · rw [hfields', hfields, Fields.overlaid_overlaid]

/-! ## Merging -/

/-- Given values for the fields of a kind. -/
def ofKind (kind : OptionsKind) (given : Fields) : Fields :=
  given.filter fun f => kind.fieldNames.contains f.1

/-- The notice of the given values that are for no field of a kind. -/
def skipped (kind : OptionsKind) (type : Text) (given : Fields) : List Notice :=
  let unknown := given.filter fun f => !kind.fieldNames.contains f.1
  if unknown.isEmpty then [] else [.unknownOptions type (unknown.map fun f => .text f.1)]

theorem mem_fieldNames_of_ofKind {kind : OptionsKind} (h : n ∈ (ofKind kind given).names) :
    n ∈ kind.fieldNames := by
  obtain ⟨f, hf, rfl⟩ := List.mem_map.mp h
  exact List.contains_iff_mem.mp (List.mem_filter.mp hf).2

theorem hasIntegerLimit_ofKind (h : given.HasIntegerLimit) (kind : OptionsKind) :
    (ofKind kind given).HasIntegerLimit := h.filter kind.fieldNames.contains

theorem ofKind_eq_self {kind : OptionsKind} (h : ∀ n ∈ given.names, n ∈ kind.fieldNames) :
    ofKind kind given = given :=
  List.filter_eq_self.mpr fun _ hf => List.contains_iff_mem.mpr (h _ (List.mem_map_of_mem hf))

theorem isSound_standard (kind : OptionsKind) : (standard kind).fields.IsSound := by
  refine ⟨fun h => ?_, fun h => ?_⟩
  · cases kind <;> cases h <;> exact .integer rfl (by decide)
  · cases kind <;> cases h
    exact .inl rfl

/-- **Merging is updating**: the options handed in, or the standard ones, by the values that are for fields
of the kind. -/
theorem merge_eq {options : Option Options} (h : ∀ o, options = some o → o.fields.IsSound)
    (kind : OptionsKind) (type : Text) (given : Fields) :
    merge kind type options given
      = ⟨skipped kind type given, (options.getD (standard kind)).update (ofKind kind given)⟩ := by
  have hrest (o : Options) (ho : o.fields.IsSound) : (if (ofKind kind given).isEmpty then return o
      else Outcome.ofExcept (o.update (ofKind kind given)))
      = Outcome.ofExcept (o.update (ofKind kind given)) := by
    split
    · next hempty =>
      rw [List.isEmpty_iff.mp hempty, update_nil ho]
      rfl
    · rfl
  cases options with
  | none =>
    rw [merge, skipped]
    cases (given.filter fun f => !kind.fieldNames.contains f.1).isEmpty <;> rfl
  | some o =>
    have ho := hrest o (h o rfl)
    rw [ofKind] at ho
    rw [merge, skipped, ofKind]
    simp only [ho]
    cases (given.filter fun f => !kind.fieldNames.contains f.1).isEmpty <;> rfl

end Options

end RichText
