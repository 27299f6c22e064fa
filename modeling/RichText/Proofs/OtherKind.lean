import RichText.Proofs.Choice
import RichText.Proofs.Delivery

/-!
# Proofs/OtherKind — the renderer is handed options of another kind

    options of another kind ──update──▸ options of that kind ──▸ reported as of the wrong kind
                            └─────────▸ what is wrong with the update

Named fields are put into the options before their kind is looked at.  So the kind is reported where that
is an update (`Options.Refusal.reported_iff`), and elsewhere the failure is that of the update.
-/

namespace RichText

open Outcome

namespace Options

variable {w : Options} {taken : Fields}

/-- **The failure of options of another kind** that values are given for: it reports the kind just where
the options have fields for all of the values, and are sound with them. -/
structure Refusal (w : Options) (taken : Fields) (e : Failure) : Prop where
  reported_iff : e = .wrongOptions (.text "rtf") "RtfRendererOptions" w.kind.className .null none
    ↔ (∀ n ∈ taken.names, n ∈ w.kind.fieldNames) ∧ (w.fields.overlaid taken).IsSound
  unknown {n : Text} (hn : n ∈ taken.names) (hfield : n ∉ w.kind.fieldNames) : e = .misuse
  broken {why : Invalid} (hnames : ∀ n ∈ taken.names, n ∈ w.kind.fieldNames)
    (hwhy : (w.fields.overlaid taken).Breaks why) : e = .invalid why

theorem forRenderer_of_kind (h : w.kind ≠ .rtf) :
    forRenderer (some w) = .error (wrongKind "rtf" .rtf w.kind) := by
  cases w with
  | rtf r => exact absurd rfl h
  | _ => rfl

/-- Options of another kind are refused, whatever values are given for them. -/
theorem exists_refusal (hkind : w.kind ≠ .rtf) (taken : Fields) : ∃ e, Refusal w taken e
    ∧ (w.update taken >>= fun merged => forRenderer (some merged)) = .error e := by
  have h := updated w taken
  generalize w.update taken = done at h
  cases h with
  | unknown hn hfield =>
    refine ⟨.misuse, ⟨⟨nofun, fun h => ?_⟩, fun _ _ => rfl, fun hnames _ => ?_⟩, rfl⟩
    · exact absurd (h.1 _ hn) hfield
    · exact absurd (hnames _ hn) hfield
  | noNumber hnames hget hlimit hzero =>
    refine ⟨.misuse, ⟨⟨nofun, fun h => ?_⟩, fun _ _ => rfl, fun _ hwhy => ?_⟩, rfl⟩
    · exact absurd (h.2.limit hget) hlimit
    · exact ((hwhy.isLimit_or hget).elim hlimit hzero).elim
  | @broken why hnames hwhy =>
    refine ⟨.invalid why, ⟨⟨nofun, fun h => ?_⟩, fun hn hfield => ?_, fun _ hwhy' => ?_⟩, rfl⟩
    · exact absurd hwhy h.2.not_breaks
    · exact absurd (hnames _ hn) hfield
    · rw [hwhy.unique hwhy']
  | @made p hnames hmade hfields hsound =>
    have hsound' : (w.fields.overlaid taken).IsSound := hfields ▸ hsound
    have hrefused := forRenderer_of_kind (w := p) (hmade ▸ hkind)
    refine ⟨_, ⟨⟨fun _ => ⟨hnames, hsound'⟩, fun _ => ?_⟩, fun hn hfield => ?_, fun _ hwhy => ?_⟩,
      hrefused⟩
    · rw [wrongKind, hmade]
      rfl
    · exact absurd (hnames _ hn) hfield
    · exact absurd hwhy hsound'.not_breaks

end Options

namespace Conversion

variable {w : Options}

/-- **Options of another kind are refused by every conversion**, and always with the same failure.  It
reports the kind just where the options have fields for all named fields of the renderer, and are sound with
them; named fields that they do not have come before the kind, and so does what breaks them.  A tree is not
rendered, and no destination is touched. -/
theorem otherKind_refused (hkind : w.kind ≠ .rtf) (hsound : w.fields.IsSound) (given : Fields)
    (hnames : ∀ n ∈ given.names, n ∉ (["markdown", "doc", "output", "options", "parser_options",
      "options_class", "options_type_name"] : List Text)) :
    ∃ e, Options.Refusal w (Options.ofKind .rtf given) e
      ∧ (∀ fs root, render fs root (some w) given
        = (fail e).behind (Options.skipped .rtf "renderer" given))
      ∧ (∀ root d world, (deliver root d (some w) given).exec world
        = (.error e, world.noted (Options.skipped .rtf "renderer" given)))
      ∧ ∀ (readers : Readers) (fs : FileSystem) (source : Source) (p : Option MarkdownOptions),
        ∃ q : MarkdownOptions,
          (Options.markdown q).fields = (Options.markdown (p.getD {})).fields.overlaid given
          ∧ renderMarkdown readers fs source (some w) (p.map .markdown) given
            = parseWith readers fs q source >>= fun _ => (fail e).behind
              (Options.skipped .rtf "renderer" (leftToRenderer given)) := by
  have hfree {names : List Text} (h : names ⊆ ["markdown", "doc", "output", "options", "parser_options",
      "options_class", "options_type_name"]) : ∀ n ∈ given.names, n ∉ names :=
    fun n hn hmem => hnames n hn (h hmem)
  obtain ⟨e, hrefusal, he⟩ := Options.exists_refusal hkind (Options.ofKind .rtf given)
  have hrender (given' : Fields) (hrtf : Options.ofKind .rtf given' = Options.ofKind .rtf given)
      (hfree' : ∀ n ∈ given'.names,
        n ∉ (["doc", "options", "options_class", "options_type_name"] : List Text)) (fs root) :
      render fs root (some w) given' = (fail e).behind (Options.skipped .rtf "renderer" given') := by
    have hoptions (o : Options) (ho : some w = some o) : o.fields.IsSound := Option.some.inj ho ▸ hsound
    rw [render_eq hfree' hoptions, Option.getD_some, hrtf, he]
    rfl
  refine ⟨e, hrefusal, hrender given rfl (hfree (by simp)), fun root d world => ?_,
    fun readers fs source p => ?_⟩
  · have houtput : ("output" : Text) ∉ given.names := fun hn => hnames _ hn (by simp)
    rw [exec_deliver houtput, Effect.exec_ofOutcome_bind, hrender given rfl (hfree (by simp))]
    show (Except.error e, world.noted (Options.skipped .rtf "renderer" given ++ [])) = _
    rw [List.append_nil]
  · obtain ⟨q, hq, hparse⟩ := exists_renderMarkdown (hfree (by simp)) readers fs source p
    refine ⟨q, hq, (hparse _).trans ?_⟩
    have hleft : ∀ n ∈ (leftToRenderer given).names,
        n ∉ (["doc", "options", "options_class", "options_type_name"] : List Text) :=
      fun n hn => hfree (by simp) n (Fields.mem_names_of_filter hn)
    simp only [hrender _ (ofKind_leftToRenderer given) hleft]

/-- A document without anything in it. -/
def emptyDocument : Node := .branch .document [] .null

/-- A base URL is no field of the parser's options, a limit of zero breaks those of every renderer, and a
name that the RTF renderer does not know is skipped. -/
theorem otherKind_refused_sample :
    (render default emptyDocument (some (.markdown {})) [("base_url", .text "http://h/")]).result
        = .error .misuse
      ∧ (render default emptyDocument (some (.renderer {})) [("max_asset_size_bytes", .int 0)]).result
        = .error (.invalid (.assetSize (.int 0)))
      ∧ (render default emptyDocument (some (.renderer {}))
          [("max_asset_size_bytes", .int 9), ("colour", .text "red")]).result
        = .error (.wrongOptions (.text "rtf") "RtfRendererOptions" "BaseRendererOptions" .null none) := by
  have hmarkdown : (Options.markdown {}).fields.IsSound := ⟨nofun, nofun⟩
  have hrenderer : (Options.renderer {}).fields.IsSound := Options.isSound_standard .renderer
  refine ⟨?_, ?_, ?_⟩
  · obtain ⟨e, hrefusal, hrender, -⟩ :=
      otherKind_refused (by decide) hmarkdown [("base_url", .text "http://h/")] (by decide)
    rw [hrender, hrefusal.unknown (n := "base_url") (by decide) (by decide)]
    rfl
  · obtain ⟨e, hrefusal, hrender, -⟩ :=
      otherKind_refused (by decide) hrenderer [("max_asset_size_bytes", .int 0)] (by decide)
    have hzero : ((Options.renderer {}).fields.overlaid [("max_asset_size_bytes", .int 0)]).Breaks
        (.assetSize (.int 0)) := .assetSize rfl (.integer rfl (by decide))
    rw [hrender, hrefusal.broken (by decide) hzero]
    rfl
  · obtain ⟨e, hrefusal, hrender, -⟩ := otherKind_refused (by decide) hrenderer
      [("max_asset_size_bytes", .int 9), ("colour", .text "red")] (by decide)
    have hnine : ((Options.renderer {}).fields.overlaid [("max_asset_size_bytes", .int 9)]).IsSound :=
      ⟨fun hv => by cases hv; exact .integer rfl (by decide), nofun⟩
    rw [hrender, hrefusal.reported_iff.mpr ⟨by decide, hnine⟩]
    rfl

/-- Not every conversion that is handed options of another kind reports the kind. -/
theorem not_always_reported :
    ¬ ∀ (fs : FileSystem) (root : Node) (w : Options) (given : Fields), w.kind ≠ .rtf →
      (∀ n ∈ given.names, n ∉ (["doc", "options", "options_class", "options_type_name"] : List Text)) →
        (render fs root (some w) given).result
          = .error (.wrongOptions (.text "rtf") "RtfRendererOptions" w.kind.className .null none) := by
  intro h
  have hreported := h default emptyDocument (.markdown {}) [("base_url", .text "http://h/")] (by decide)
    (by decide)
  cases hreported

end Conversion

end RichText
