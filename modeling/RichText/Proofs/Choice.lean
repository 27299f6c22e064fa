import RichText.Conversion
import RichText.Proofs.Making
import RichText.Proofs.Walk

/-!
# Proofs/Choice — what options a conversion comes to

    options, named fields ──merge──▸ options of the parser   ──▸ tree
                          └─merge──▸ options of the renderer ──▸ RTF

Named fields go to the parser or to the renderer, and have no effect where neither has such a field.  Both
take them in the place of the fields of the options that are handed in (`exists_choice`).
-/

namespace RichText

open Outcome

namespace Conversion

variable {fs : FileSystem} {root : Node} {options : Option Options} {given : Fields} {names : List Text}

theorem refuseNames_eq_ok (h : ∀ n ∈ given.names, n ∉ names) : refuseNames names given = .ok () := by
  rw [refuseNames, if_neg]
  simpa using h

/-- **Rendering with named fields** is rendering with an update of the options. -/
theorem render_eq
    (hnames : ∀ n ∈ given.names,
      n ∉ (["doc", "options", "options_class", "options_type_name"] : List Text))
    (hoptions : ∀ o, options = some o → o.fields.IsSound) :
    render fs root options given
      = (Outcome.ofExcept ((options.getD (.standard .rtf)).update (Options.ofKind .rtf given)
          >>= fun merged => Options.forRenderer (some merged)) >>= fun o => renderWith fs o root).behind
        (Options.skipped .rtf "renderer" given) := by
  rw [render, refuseNames_eq_ok hnames, Options.merge_eq hoptions]
  cases (options.getD (.standard .rtf)).update (Options.ofKind .rtf given) with
  | error e => exact congrArg (Outcome.mk · _) (List.append_nil _).symm
  | ok merged => rfl

/-- The named fields that the parser leaves to the renderer. -/
def leftToRenderer (given : Fields) : Fields :=
  given.filter fun f => !OptionsKind.markdown.fieldNames.contains f.1

/-- **Named fields of the parser** take the place of its options, whatever they are; then comes the
renderer. -/
theorem exists_renderMarkdown
    (hnames : ∀ n ∈ given.names, n ∉ (["markdown", "options", "parser_options"] : List Text))
    (readers : Readers) (fs : FileSystem) (source : Source) (p : Option MarkdownOptions) :
    ∃ q : MarkdownOptions, (Options.markdown q).fields
        = (Options.markdown (p.getD {})).fields.overlaid given
      ∧ ∀ options, renderMarkdown readers fs source options (p.map .markdown) given
        = parseWith readers fs q source >>= fun root => render fs root options (leftToRenderer given) := by
  have hfieldNames : ∀ n ∈ (Options.ofKind .markdown given).names,
      n ∈ OptionsKind.markdown.fieldNames := fun _ => Options.mem_fieldNames_of_ofKind
  obtain ⟨made, hupdate, hkind, hfields⟩ :=
    Options.exists_update (o := .markdown (p.getD {})) hfieldNames ⟨nofun, nofun⟩
  obtain ⟨q, rfl⟩ : ∃ q, made = .markdown q := by
    cases made <;> first | exact ⟨_, rfl⟩ | cases hkind
  have hoptions (o : Options) (ho : p.map .markdown = some o) : o.fields.IsSound := by
    obtain ⟨m, -, rfl⟩ := Option.map_eq_some_iff.mp ho
    exact ⟨nofun, nofun⟩
  have hbase : (p.map Options.markdown).getD (.standard .markdown) = .markdown (p.getD {}) := by
    cases p <;> rfl
  have hskipped : Options.skipped .markdown "parser" (Options.ofKind .markdown given) = [] := by
    rw [Options.skipped, List.filter_eq_nil_iff.mpr]
    · rfl
    · intro f hf
      simpa using hfieldNames _ (List.mem_map_of_mem hf)
  have hmerge : Options.merge .markdown "parser" (p.map .markdown) (Options.ofKind .markdown given)
      = pure (.markdown q) := by
    rw [Options.merge_eq hoptions, hbase, Options.ofKind_eq_self hfieldNames, hupdate, hskipped]
    rfl
  refine ⟨q, hfields.trans (Fields.overlaid_filter fun n hn => ?_), fun options => ?_⟩
  · exact List.contains_iff_mem.mpr hn
  · rw [renderMarkdown, refuseNames_eq_ok hnames]
    rw [Options.ofKind] at hmerge
    simp only [hmerge]
    rfl

theorem overlaid_ofKind (r : RtfOptions) (given : Fields) :
    (Options.rtf r).fields.overlaid (Options.ofKind .rtf given)
      = (Options.rtf r).fields.overlaid given :=
  Fields.overlaid_filter fun _ hn => List.contains_iff_mem.mpr hn

/-- No field is one of the parser and of the renderer. -/
theorem ofKind_leftToRenderer (given : Fields) :
    Options.ofKind .rtf (leftToRenderer given) = Options.ofKind .rtf given := by
  have hdisjoint : ∀ n ∈ OptionsKind.rtf.fieldNames,
      (!OptionsKind.markdown.fieldNames.contains n) = true := by decide
  rw [Options.ofKind, leftToRenderer, List.filter_filter]
  refine List.filter_congr fun f _ => ?_
  cases hf : OptionsKind.rtf.fieldNames.contains f.1 with
  | false => rfl
  | true => exact hdisjoint _ (List.contains_iff_mem.mp hf)

theorem overlaid_leftToRenderer (r : RtfOptions) (given : Fields) :
    (Options.rtf r).fields.overlaid (leftToRenderer given) = (Options.rtf r).fields.overlaid given := by
  rw [← overlaid_ofKind, ofKind_leftToRenderer, overlaid_ofKind]

/-- **Named fields of the renderer** take the place of its options, unless what they come to is broken. -/
theorem exists_render (o : Option RtfOptions) (ho : ∀ r, o = some r → (Options.rtf r).fields.IsSound)
    (hnames : ∀ n ∈ given.names,
      n ∉ (["doc", "options", "options_class", "options_type_name"] : List Text))
    (hlimit : given.HasIntegerLimit) :
    (∃ r, (Options.rtf r).fields = (Options.rtf (o.getD {})).fields.overlaid given
        ∧ (Options.rtf r).fields.IsSound
        ∧ ∀ fs root, render fs root (o.map .rtf) given
          = (renderWith fs r root).behind (Options.skipped .rtf "renderer" given))
      ∨ ∃ why, ((Options.rtf (o.getD {})).fields.overlaid given).Breaks why
        ∧ ∀ fs root, render fs root (o.map .rtf) given
          = (fail (.invalid why)).behind (Options.skipped .rtf "renderer" given) := by
  have hoptions (w : Options) (hw : o.map .rtf = some w) : w.fields.IsSound := by
    obtain ⟨r, hr, rfl⟩ := Option.map_eq_some_iff.mp hw
    exact ho r hr
  have hbase : (o.map Options.rtf).getD (.standard .rtf) = .rtf (o.getD {}) := by
    cases o <;> rfl
  have hsound : (Options.rtf (o.getD {})).fields.IsSound := by
    cases o with
    | none => exact Options.isSound_standard .rtf
    | some r => exact ho r rfl
  have hfieldNames : ∀ n ∈ (Options.ofKind .rtf given).names,
      n ∈ OptionsKind.rtf.fieldNames := fun _ => Options.mem_fieldNames_of_ofKind
  rw [← overlaid_ofKind]
  obtain hchosen | ⟨why, hwhy⟩ := hsound.overlaid (Options.hasIntegerLimit_ofKind hlimit .rtf)
  · obtain ⟨made, hupdate, hkind, hfields⟩ :=
      Options.exists_update (o := .rtf (o.getD {})) hfieldNames hchosen
    obtain ⟨r, rfl⟩ : ∃ r, made = .rtf r := by
      cases made <;> first | exact ⟨_, rfl⟩ | cases hkind
    refine .inl ⟨r, hfields, hfields ▸ hchosen, fun fs root => ?_⟩
    rw [render_eq hnames hoptions, hbase, hupdate]
    rfl
  · refine .inr ⟨why, hwhy, fun fs root => ?_⟩
    rw [render_eq hnames hoptions, hbase, Options.update_eq_invalid_iff.mpr ⟨hfieldNames, hwhy⟩]
    rfl

/-- **Named fields as a caller gives them**: none has the name of a parameter, and a size limit is an
integer. -/
structure IsGiven (given : Fields) : Prop where
  names : ∀ n ∈ given.names, n ∉ (["markdown", "doc", "options", "parser_options", "options_class",
    "options_type_name"] : List Text)
  limit : given.HasIntegerLimit

theorem IsGiven.not_mem (h : IsGiven given) (hnames : names ⊆ ["markdown", "doc", "options",
    "parser_options", "options_class", "options_type_name"]) : ∀ n ∈ given.names, n ∉ names :=
  fun n hn hmem => h.names n hn (hnames hmem)

theorem IsGiven.filter (h : IsGiven given) (keep : Text → Bool) :
    IsGiven (given.filter fun f => keep f.1) :=
  ⟨fun n hn => h.names n (Fields.mem_names_of_filter hn), h.limit.filter keep⟩

/-- **What a conversion comes to**: parser options, and renderer options or the failure of what breaks
them. -/
theorem exists_choice (readers : Readers) (fs : FileSystem) (source : Source) (o : Option RtfOptions)
    (p : Option MarkdownOptions) (ho : ∀ r, o = some r → (Options.rtf r).fields.IsSound)
    (hgiven : IsGiven given) :
    ∃ q : MarkdownOptions, (Options.markdown q).fields
        = (Options.markdown (p.getD {})).fields.overlaid given
      ∧ ((∃ r, (Options.rtf r).fields = (Options.rtf (o.getD {})).fields.overlaid given
          ∧ (Options.rtf r).fields.IsSound
          ∧ renderMarkdown readers fs source (o.map .rtf) (p.map .markdown) given
            = parseWith readers fs q source >>= fun root => (renderWith fs r root).behind
              (Options.skipped .rtf "renderer" (leftToRenderer given)))
        ∨ ∃ why, ((Options.rtf (o.getD {})).fields.overlaid given).Breaks why
          ∧ renderMarkdown readers fs source (o.map .rtf) (p.map .markdown) given
            = parseWith readers fs q source >>= fun _ => (fail (.invalid why)).behind
              (Options.skipped .rtf "renderer" (leftToRenderer given))) := by
  obtain ⟨q, hq, hparse⟩ := exists_renderMarkdown (hgiven.not_mem (by simp)) readers fs source p
  have hleft : IsGiven (leftToRenderer given) :=
    hgiven.filter fun n => !OptionsKind.markdown.fieldNames.contains n
  refine ⟨q, hq, ?_⟩
  have hrender := exists_render o ho (hleft.not_mem (by simp)) hleft.limit
  rw [overlaid_leftToRenderer] at hrender
  simp only [hparse]
  refine hrender.imp (fun ⟨r, hr, hsound, hrender⟩ => ⟨r, hr, hsound, ?_⟩)
    fun ⟨why, hwhy, hrender⟩ => ⟨why, hwhy, ?_⟩
  · simp only [hrender]
  · simp only [hrender]

/-- Whether the parser or the renderer has a field of a name. -/
def isField (n : Text) : Bool :=
  OptionsKind.markdown.fieldNames.contains n || OptionsKind.rtf.fieldNames.contains n

/-- Notices behind a tree do not change the result. -/
theorem result_bind_behind {α β : Type} (x : Outcome α) (f : α → Outcome β) (log : List Notice) :
    (x >>= fun a => (f a).behind log).result = (x >>= f).result := by
  obtain ⟨own, result⟩ := x
  cases result <;> rfl

theorem result_renderMarkdown_filter (readers : Readers) (fs : FileSystem) (source : Source)
    (o : Option RtfOptions) (p : Option MarkdownOptions)
    (ho : ∀ r, o = some r → (Options.rtf r).fields.IsSound) (hgiven : IsGiven given) :
    (renderMarkdown readers fs source (o.map .rtf) (p.map .markdown) given).result
      = (renderMarkdown readers fs source (o.map .rtf) (p.map .markdown)
        (given.filter fun f => isField f.1)).result := by
  have hmarkdown (m : MarkdownOptions) :
      (Options.markdown m).fields.overlaid (given.filter fun f => isField f.1)
        = (Options.markdown m).fields.overlaid given :=
    Fields.overlaid_filter fun _ hn => Bool.or_eq_true_iff.mpr (.inl (List.contains_iff_mem.mpr hn))
  have hrtf (r : RtfOptions) :
      (Options.rtf r).fields.overlaid (given.filter fun f => isField f.1)
        = (Options.rtf r).fields.overlaid given :=
    Fields.overlaid_filter fun _ hn => Bool.or_eq_true_iff.mpr (.inr (List.contains_iff_mem.mpr hn))
  obtain ⟨q, hq, hall⟩ := exists_choice readers fs source o p ho hgiven
  obtain ⟨q', hq', hfields⟩ := exists_choice readers fs source o p ho (hgiven.filter isField)
  rw [hmarkdown] at hq'
  rw [hrtf] at hfields
  obtain rfl : q = q' := Options.markdown_of_fields (hq.trans hq'.symm)
  obtain ⟨r, hr, hsound, hall⟩ | ⟨why, hwhy, hall⟩ := hall
  · obtain ⟨r', hr', -, hfields⟩ | ⟨why', hwhy', -⟩ := hfields
    · obtain rfl : r = r' := Options.rtf_of_fields (hr.trans hr'.symm)
      rw [hall, hfields, result_bind_behind, result_bind_behind]
    · exact absurd hwhy' (hr ▸ hsound).not_breaks
  · obtain ⟨r', hr', hsound, -⟩ | ⟨why', hwhy', hfields⟩ := hfields
    · exact absurd hwhy (hr' ▸ hsound).not_breaks
    · obtain rfl := hwhy.unique hwhy'
      rw [hall, hfields, result_bind_behind, result_bind_behind]

open Options in
/-- **Given values win over options, and options over defaults.**  A conversion is that with the parser
options and the renderer options that have the named fields in the place of their own, or fails behind the
parser with what is wrong with the latter; names that are no fields do not matter.  However options are made
one from another, those that are there stay, and all have a size limit above zero and one of two modes; a
call that would come to anything else fails with what is wrong.  A chain of changes is one merge, in which
the later values win. -/
theorem renderMarkdown_overlaid :
    (∀ (readers : Readers) (fs : FileSystem) (source : Source) (o : Option RtfOptions)
      (p : Option MarkdownOptions) (given : Fields), (∀ r, o = some r → (rtf r).fields.IsSound) →
        IsGiven given →
        let conversion := renderMarkdown readers fs source (o.map .rtf) (p.map .markdown)
        let chosen := (rtf (o.getD {})).fields.overlaid given
        let notices := skipped .rtf "renderer" (leftToRenderer given)
        (∃ q : MarkdownOptions, (markdown q).fields = (markdown (p.getD {})).fields.overlaid given
          ∧ ((∃ r, (rtf r).fields = chosen ∧ (rtf r).fields.IsSound ∧ conversion given
              = parseWith readers fs q source >>= fun root => (renderWith fs r root).behind notices)
            ∨ ∃ why, chosen.Breaks why ∧ conversion given
              = parseWith readers fs q source >>= fun _ => (fail (.invalid why)).behind notices))
          ∧ (conversion given).result = (conversion (given.filter fun f => isField f.1)).result)
    ∧ (∀ (made : List Options) (calls : List Call),
        (∀ o ∈ made, o.fields.IsSound ∧ o.fields.HasIntegerLimit) →
        (∀ call ∈ calls, call.taken.HasIntegerLimit) →
          made <+: Call.run made calls
          ∧ ∀ o ∈ Call.run made calls,
            (∀ v, o.fields.get? "max_asset_size_bytes" = some v → ∃ n : Int, v.int? = some n ∧ 0 < n)
            ∧ ∀ v, o.fields.get? "unicode_mode" = some v → v = .text "utf16" ∨ v = .text "codepoint")
    ∧ (∀ (made : List Options) (call : Call) (base : Options), (∀ o ∈ made, o.fields.IsSound) →
        call.base? made = some base → (∀ n ∈ call.taken.names, n ∈ base.kind.fieldNames) →
        call.taken.HasIntegerLimit → ¬ (base.fields.overlaid call.taken).IsSound →
          ∃ why, (base.fields.overlaid call.taken).Breaks why
            ∧ call.result made = .error (.invalid why))
    ∧ (∀ (o p : Options) (type : Text) (overrides : List Override), o.fields.IsSound →
        overrides.foldlM Override.apply o = .ok p →
          (merge o.kind type (some o) (Override.winning [] overrides)).result = .ok p)
    ∧ ∀ (kind : OptionsKind) (given : Fields) (o p : Options) (type : Text) (overrides : List Override),
        create kind given = .ok o → overrides.foldlM Override.apply o = .ok p →
          (merge kind type none (Override.winning given overrides)).result = .ok p := by
  refine ⟨fun readers fs source o p given ho hgiven => ?_, fun made calls hmade hcalls => ?_,
    fun made call base hmade hbase hnames htaken hbroken => ?_, fun o p type overrides ho hchain => ?_,
    fun kind given o p type overrides ho hchain => ?_⟩
  · exact ⟨exists_choice readers fs source o p ho hgiven,
      result_renderMarkdown_filter readers fs source o p ho hgiven⟩
  · refine ⟨Call.isPrefix_run made calls, fun o ho => ⟨Call.exists_limit_run hmade hcalls o ho, ?_⟩⟩
    exact fun v => (Call.isSound_run (fun o ho => (hmade o ho).1) o ho).mode
  · exact (Call.result_cases hmade hbase hnames htaken).resolve_left fun h => hbroken h.1
  · have hsome (w : Options) (hw : some o = some w) : w.kind = o.kind ∧ w.fields.IsSound := by
      cases hw
      exact ⟨rfl, ho⟩
    exact Override.merge_winning o.kind type hsome (update_nil ho) hchain
  · exact Override.merge_winning kind type nofun ho hchain

section Samples

open Options

/-- A field that neither has, one that the parser has, and one that the renderer has. -/
def fewFields : Fields :=
  [("base_url", .text "http://h/"), ("colour", .text "red"), ("parse_tables", .bool true)]

/-- Three changes that are made of options, one of them to no mode. -/
def fewCalls : List Call :=
  [.create .rtf [("embed_images", .bool true)], .override 0 (.merge .rtf "renderer" fewFields),
    .override 1 (.update [("unicode_mode", .text "latin1")]),
    .override 1 (.update [("base_url", .null), ("unicode_mode", .text "codepoint")])]

theorem isGiven_fewFields : IsGiven fewFields := ⟨by decide, nofun⟩

theorem isSound_embedding (baseUrl : Value) :
    (rtf { embedImages := .bool true, baseUrl }).fields.IsSound := by
  refine ⟨fun h => ?_, fun h => ?_⟩
  · cases h
    exact .integer rfl (by decide)
  · cases h
    exact .inl rfl

/-- A conversion with options and named fields, one that a field breaks, and options made one from
another. -/
theorem renderMarkdown_overlaid_sample :
    let o : RtfOptions := { embedImages := .bool true }
    let broken : Fields := ("max_asset_size_bytes", .int 0) :: fewFields
    (∀ readers, renderMarkdown readers default (.text "a") (some (.rtf o)) none fewFields
        = parseWith readers default { parseTables := .bool true } (.text "a") >>= fun root =>
          (renderWith default { embedImages := .bool true, baseUrl := .text "http://h/" } root).behind
            [.unknownOptions "renderer" [.text "colour"]])
      ∧ (∀ readers, renderMarkdown readers default (.text "a") (some (.rtf o)) none broken
        = parseWith readers default { parseTables := .bool true } (.text "a") >>= fun _ =>
          (fail (.invalid (.assetSize (.int 0)))).behind [.unknownOptions "renderer" [.text "colour"]])
      ∧ ([rtf o] <+: Call.run [rtf o] fewCalls ∧ (Call.run [rtf o] fewCalls).length = 4
        ∧ ∀ w ∈ Call.run [rtf o] fewCalls, ∀ v, w.fields.get? "max_asset_size_bytes" = some v →
          ∃ n : Int, v.int? = some n ∧ 0 < n)
      ∧ (∃ why, Call.result [rtf o] (.override 0 (.update [("unicode_mode", .text "latin1")]))
        = .error (.invalid why))
      ∧ ∃ p, (merge .rtf "renderer" (some (rtf o)) (Override.winning []
        [.merge .rtf "renderer" fewFields, .update [("base_url", .null)]])).result = .ok p := by
  intro o broken
  obtain ⟨hconversion, hmaking, hbreaking, hchain, -⟩ := renderMarkdown_overlaid
  have ho : ∀ r, some o = some r → (rtf r).fields.IsSound := by
    rintro r ⟨⟩
    exact isSound_embedding .null
  have hmade : ∀ w ∈ [rtf o], w.fields.IsSound ∧ w.fields.HasIntegerLimit := by
    intro w hw
    obtain rfl := List.mem_singleton.mp hw
    exact ⟨isSound_embedding .null, fun v hv => by cases hv; exact ⟨_, rfl⟩⟩
  have hbrokenGiven : IsGiven broken := by
    refine ⟨by decide, fun v hv => ?_⟩
    cases hv
    exact ⟨0, rfl⟩
  refine ⟨?_, ?_, ?_, ?_, ?_⟩
  · intro readers
    obtain ⟨⟨q, hq, hfields⟩, -⟩ :=
      hconversion readers default (.text "a") (some o) none _ ho isGiven_fewFields
    obtain rfl : q = { parseTables := .bool true } := markdown_of_fields hq
    obtain ⟨r, hr, -, hall⟩ | ⟨why, hwhy, -⟩ := hfields
    · obtain rfl : r = { embedImages := .bool true, baseUrl := .text "http://h/" } := rtf_of_fields hr
      exact hall
    · exact absurd hwhy (isSound_embedding (.text "http://h/")).not_breaks
  · intro readers
    obtain ⟨⟨q, hq, hfields⟩, -⟩ :=
      hconversion readers default (.text "a") (some o) none _ ho hbrokenGiven
    obtain rfl : q = { parseTables := .bool true } := markdown_of_fields hq
    have hzero : ((rtf o).fields.overlaid broken).Breaks (.assetSize (.int 0)) :=
      .assetSize rfl (.integer rfl (by decide))
    obtain ⟨r, hr, hsound, -⟩ | ⟨why, hwhy, hall⟩ := hfields
    · exact absurd hzero (hr ▸ hsound).not_breaks
    · obtain rfl := hwhy.unique hzero
      exact hall
  · have hlimits : ∀ call ∈ fewCalls, call.taken.HasIntegerLimit := fun call hcall v hv => by
      simp only [fewCalls, List.mem_cons, List.not_mem_nil, or_false] at hcall
      rcases hcall with rfl | rfl | rfl | rfl <;> cases hv
    obtain ⟨hstay, hall⟩ := hmaking _ fewCalls hmade hlimits
    exact ⟨hstay, rfl, fun w hw => (hall w hw).1⟩
  · refine (hbreaking _ _ _ (fun w hw => (hmade w hw).1) rfl (by decide) (fun v hv => by cases hv)
      fun hsound => ?_).imp fun _ h => h.2
    rcases hsound.mode rfl with h | h <;> exact absurd (Value.text.inj h) (by decide)
  · exact ⟨_, hchain (rtf o) (rtf o) "renderer" _ (isSound_embedding .null) rfl⟩

end Samples

end Conversion

end RichText
