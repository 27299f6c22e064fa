import RichText.Conversion
import RichText.Proofs.Walk

/-!
# Proofs/Strictness — a strict run is a lenient one up to its first warning

    lenient:  notices, a warning, notices, how it ends
    strict:   notices, the warning ──▸ the failure that the warning is about

The options say whether an image that cannot be embedded is only warned of or ends the rendering.
`Outcome.escalated` takes an outcome to what it is when the first warning ends it.  It goes through
every step a rendering is made of (`Outcome.escalated_bind`), and one step of them writes warnings
(`Leaf.embedded?_escalated`), so a strict rendering is an escalated lenient one
(`Node.render_escalated`).
-/

namespace RichText

/-! ## Escalation -/

/-- The failure that a notice stands for: that of an image that was not embedded. -/
def Notice.failure? : Notice → Option Failure
  | embeddingFailed url cause =>
    let message : Text := "Failed to embed image " ++ (shortened url).shown ++ ": " ++ cause.quoted
    some (.rendering (.text message) (.text "image_processing") (some cause))
  | _ => none

/-- The notices up to the first that stands for a failure, and that failure. -/
def Notice.upToFailure : List Notice → Option (List Notice × Failure)
  | [] => none
  | n :: rest => match n.failure? with
    | some e => some ([n], e)
    | none => (upToFailure rest).map fun found => (n :: found.1, found.2)

/-- **An outcome that ends with the first notice that stands for a failure.** -/
def Outcome.escalated {α : Type} (x : Outcome α) : Outcome α :=
  match Notice.upToFailure x.log with
  | some (log, e) => ⟨log, .error e⟩
  | none => x

/-- An outcome whose notices stand for no failure. -/
def Outcome.IsQuiet {α : Type} (x : Outcome α) : Prop := ∀ n ∈ x.log, n.failure? = none

namespace Notice

theorem upToFailure_eq_none {log : List Notice} :
    upToFailure log = none ↔ ∀ n ∈ log, n.failure? = none := by
  induction log with
  | nil => simp [upToFailure]
  | cons n rest ih => cases hn : n.failure? <;> simp [upToFailure, hn, ih]

theorem upToFailure_append (l m : List Notice) :
    upToFailure (l ++ m)
      = (upToFailure l).or ((upToFailure m).map fun found => (l ++ found.1, found.2)) := by
  induction l with
  | nil => simp [upToFailure]
  | cons n rest ih =>
    cases hn : n.failure? with
    | some e => simp [upToFailure, hn]
    | none =>
      rw [List.cons_append, upToFailure, upToFailure, hn, ih]
      cases upToFailure rest <;> cases upToFailure m <;> rfl

/-- The notices in front of the first failure stand for none. -/
theorem upToFailure_of_append {before after : List Notice} {n : Notice} {e : Failure}
    (hbefore : ∀ m ∈ before, m.failure? = none) (hn : n.failure? = some e) :
    upToFailure (before ++ n :: after) = some (before ++ [n], e) := by
  rw [upToFailure_append, upToFailure_eq_none.mpr hbefore, upToFailure, hn]
  rfl

/-- Notices that stand for no failure are those that warn of no image. -/
theorem forall_failure?_eq_none {log : List Notice} :
    (∀ n ∈ log, n.failure? = none) ↔ ∀ url cause, .embeddingFailed url cause ∉ log := by
  constructor
  · intro h url cause hmem
    exact nomatch h _ hmem
  · intro h n hn
    cases n with
    | embeddingFailed url cause => exact (h url cause hn).elim
    | _ => rfl

end Notice

namespace Outcome

variable {α β : Type}

theorem IsQuiet.escalated {x : Outcome α} (h : x.IsQuiet) : x.escalated = x := by
  rw [Outcome.escalated, Notice.upToFailure_eq_none.mpr h]

/-- An escalated outcome has the result of a quiet one. -/
theorem escalated_eq_ok {x : Outcome α} {a : α} :
    x.escalated.result = .ok a ↔ x.result = .ok a ∧ x.IsQuiet := by
  rw [IsQuiet, ← Notice.upToFailure_eq_none, Outcome.escalated]
  cases Notice.upToFailure x.log <;> simp

theorem IsQuiet.bind {x : Outcome α} (hx : x.IsQuiet) {next : α → Outcome β}
    (hnext : ∀ a, (next a).IsQuiet) : (x >>= next).IsQuiet := by
  obtain ⟨log, result⟩ := x
  cases result with
  | error e => exact hx
  | ok a => exact List.forall_mem_append.mpr ⟨hx, hnext a⟩

theorem isQuiet_pure (a : α) : (pure a : Outcome α).IsQuiet := List.forall_mem_nil _

theorem isQuiet_fail (e : Failure) : (fail e : Outcome α).IsQuiet := List.forall_mem_nil _

theorem isQuiet_ofExcept (r : Except Failure α) : (ofExcept r).IsQuiet := List.forall_mem_nil _

theorem isQuiet_note {n : Notice} (h : n.failure? = none) : (note n).IsQuiet :=
  List.forall_mem_singleton.mpr h

/-- **Escalation goes through the steps of a computation.** -/
theorem escalated_bind (x : Outcome α) (next : α → Outcome β) :
    (x >>= next).escalated = x.escalated >>= fun a => (next a).escalated := by
  obtain ⟨log, result⟩ := x
  cases result with
  | error e =>
    show escalated ⟨log, .error e⟩ = escalated ⟨log, .error e⟩ >>= _
    rw [escalated.eq_def, escalated.eq_def]
    dsimp only
    cases Notice.upToFailure log <;> rfl
  | ok a =>
    show escalated ⟨log ++ (next a).log, (next a).result⟩ = escalated ⟨log, .ok a⟩ >>= _
    rw [escalated.eq_def, escalated.eq_def ⟨log, _⟩]
    dsimp only
    rw [Notice.upToFailure_append]
    cases Notice.upToFailure log with
    | some found => rfl
    | none =>
      show _ = (next a).escalated.behind log
      rw [escalated.eq_def (next a)]
      cases Notice.upToFailure (next a).log <;> rfl

end Outcome

/-! ## Quiet steps -/

open Outcome

namespace RenderContext

/-- A context in which an image that cannot be embedded ends the rendering. -/
def strict (context : RenderContext) : RenderContext :=
  { context with failOnResourceErrors := .bool true }

/-- A context in which an image that cannot be embedded is warned of. -/
def lenient (context : RenderContext) : RenderContext :=
  { context with failOnResourceErrors := .bool false }

theorem truthy_strict (context : RenderContext) :
    context.strict.failOnResourceErrors.truthy = true := rfl

theorem truthy_lenient (context : RenderContext) :
    ¬ context.lenient.failOnResourceErrors.truthy = true := Bool.false_ne_true

end RenderContext

namespace ImageLoader

variable (loader : ImageLoader)

theorem isQuiet_loadUri (uri : Text) : (loader.loadUri uri).IsQuiet := by
  rw [loadUri]
  split
  · exact (isQuiet_note rfl).bind fun _ => isQuiet_fail _
  · split
    · exact isQuiet_fail _
    · exact (isQuiet_ofExcept _).bind fun _ => isQuiet_pure _

/-- Loading an image warns of nothing. -/
theorem isQuiet_load (fs : FileSystem) (address : Value) : (load fs loader address).IsQuiet := by
  rw [load.eq_def]
  split
  · split
    · exact (isQuiet_loadUri loader _).bind fun _ => isQuiet_pure _
    split
    · exact (isQuiet_note rfl).bind fun _ => isQuiet_pure _
    · exact (isQuiet_ofExcept _).bind fun _ => isQuiet_pure _
  · refine (isQuiet_ofExcept _).bind fun found => ?_
    split
    · exact (isQuiet_note rfl).bind fun _ => isQuiet_pure _
    split
    · exact isQuiet_fail _
    · exact isQuiet_fail _

end ImageLoader

variable {fs : FileSystem} {context : RenderContext}

/-- Nothing around children is warned of, and nothing there depends on strictness. -/
theorem Branch.isQuiet_enclosure (b : Branch) : (b.enclosure context).IsQuiet := by
  cases b with
  | heading level =>
    rw [enclosure]
    split
    · exact isQuiet_fail _
    · exact isQuiet_ofExcept _
  | link url title =>
    rw [enclosure]
    split
    · exact isQuiet_fail _
    · exact isQuiet_ofExcept _
  | element tag attributes => exact (isQuiet_note rfl).bind fun _ => isQuiet_pure _
  | _ => exact isQuiet_pure _

/-! ## Rules -/

/-- **An image that is not embedded** is warned of by a lenient run, and ends a strict one. -/
theorem Leaf.embedded?_escalated (loader : ImageLoader) (url width height : Value) :
    embedded? fs context.strict loader url width height
      = (embedded? fs context.lenient loader url width height).escalated := by
  have hload : ∀ n ∈ (loader.load fs url).log, n.failure? = none := loader.isQuiet_load fs url
  have hquiet (r : Except Failure (Option Text)) :
      Outcome.mk (loader.load fs url).log r = escalated ⟨(loader.load fs url).log, r⟩ := by
    rw [escalated, Notice.upToFailure_eq_none.mpr hload]
  rw [embedded?, embedded?]
  dsimp only
  split
  · exact hquiet _
  · exact hquiet _
  · split
    · exact hquiet _
    split
    · exact hquiet _
    · exact hquiet _
    · rw [if_pos context.truthy_strict, if_neg context.truthy_lenient, escalated,
        Notice.upToFailure_of_append hload rfl]

theorem Leaf.rule_escalated (l : Leaf) :
    l.rule fs context.strict = (l.rule fs context.lenient).escalated := by
  cases l with
  | text content metadata =>
    refine (IsQuiet.escalated ?_).symm
    rw [rule]
    split
    · exact isQuiet_fail _
    · exact isQuiet_ofExcept _
  | image url alt title width height metadata =>
    rw [rule, rule]
    split
    · exact (isQuiet_fail _).escalated.symm
    · have hlink : (ofExcept (imageLink context.lenient url alt)).escalated
          = ofExcept (imageLink context.strict url alt) := (isQuiet_ofExcept _).escalated
      obtain ⟨baseUrl, mode, imageLoader, failOnErrors⟩ := context
      cases imageLoader with
      | none => exact hlink.symm
      | some loader =>
        refine Eq.trans ?_ (escalated_bind (embedded? ..) _).symm
        rw [← embedded?_escalated]
        refine congrArg (_ >>= ·) (funext fun picture => ?_)
        cases picture with
        | some t => exact (isQuiet_pure _).escalated.symm
        | none => exact hlink.symm
  | foreign className =>
    exact ((isQuiet_note rfl).bind fun _ => isQuiet_pure _).escalated.symm
  | stray v => exact (isQuiet_fail _).escalated.symm

theorem Branch.rule_escalated (b : Branch) (body : Text) :
    b.rule context.strict body = (b.rule context.lenient body).escalated := by
  have hsame : b.rule context.strict body = b.rule context.lenient body := by cases b <;> rfl
  rw [hsame]
  exact (b.isQuiet_enclosure.bind fun _ => isQuiet_pure _).escalated.symm

theorem Node.rule_escalated (n : Node) (children : List Rendered) :
    n.rule fs context.strict children = (n.rule fs context.lenient children).escalated := by
  rw [rule, rule, escalated_bind, (isQuiet_ofExcept _).escalated]
  congr 1
  funext body
  cases n with
  | leaf l => exact l.rule_escalated
  | branch b _ _ => exact b.rule_escalated body
  | misfilled b _ _ => exact b.rule_escalated body

/-! ## Trees -/

namespace Node

mutual

/-- **A strict rendering is a lenient one up to its first warning.** -/
theorem render_escalated (n : Node) :
    n.render fs context.strict = (n.render fs context.lenient).escalated := by
  match n with
  | leaf l =>
    rw [render, render]
    exact rule_escalated _ _
  | branch b children metadata =>
    rw [render, render, escalated_bind, renderAll_escalated children]
    congr 1
    funext rs
    exact rule_escalated _ _
  | misfilled b value metadata =>
    rw [render, render]
    split
    · exact (isQuiet_fail _).escalated.symm
    split
    · exact rule_escalated _ _
    · exact (isQuiet_fail _).escalated.symm

theorem renderAll_escalated (children : List Node) :
    renderAll fs context.strict children = (renderAll fs context.lenient children).escalated := by
  match children with
  | [] => rfl
  | n :: rest =>
    rw [renderAll, renderAll]
    split
    · rfl
    · rw [escalated_bind, render_escalated n]
      congr 1
      funext first
      rw [escalated_bind, renderAll_escalated rest]
      rfl

end

end Node

/-! ## Options -/

namespace Conversion

variable {root : Node} {o : RtfOptions}

/-- Where options say that images come from, if they are embedded. -/
def loaderOf (fs : FileSystem) (o : RtfOptions) : Except Failure (Option ImageLoader) :=
  if o.embedImages.truthy then some <$> ImageLoader.create fs o.sourceDirectory o.maxAssetSize
  else .ok none

/-- The context of options, with what they say of failures apart from the rest. -/
theorem ofOptions_eq (fs : FileSystem) (o : RtfOptions) :
    RenderContext.ofOptions fs o = (loaderOf fs o).map fun loader =>
      ⟨o.baseUrl, o.unicodeMode, loader, o.failOnResourceErrors⟩ := by
  rw [RenderContext.ofOptions, loaderOf]
  cases o.embedImages.truthy with
  | false => rfl
  | true => cases ImageLoader.create fs o.sourceDirectory o.maxAssetSize <;> rfl

/-- **Strict options render as lenient ones do**, up to the first warning. -/
theorem renderWith_escalated (fs : FileSystem) (o : RtfOptions) (root : Node) :
    renderWith fs { o with failOnResourceErrors := .bool true } root
      = (renderWith fs { o with failOnResourceErrors := .bool false } root).escalated := by
  rw [renderWith, renderWith, ofOptions_eq, ofOptions_eq]
  have hloader (v : Value) : loaderOf fs { o with failOnResourceErrors := v } = loaderOf fs o := rfl
  rw [hloader (.bool true), hloader (.bool false)]
  cases loaderOf fs o with
  | error e => exact (isQuiet_fail e).escalated.symm
  | ok loader =>
    let context : RenderContext := ⟨o.baseUrl, o.unicodeMode, loader, .null⟩
    show (Walk.render fs context.strict root >>= fun rendered => note .renderingDone >>= fun _ =>
        pure rendered)
      = (Walk.render fs context.lenient root >>= fun rendered => note .renderingDone >>= fun _ =>
        pure rendered).escalated
    rw [Walk.render_eq, Walk.render_eq, escalated_bind, Node.render_escalated]
    refine congrArg (_ >>= ·) (funext fun rendered => ?_)
    exact ((isQuiet_note rfl).bind fun _ => isQuiet_pure _).escalated.symm

/-- **A strict run is a lenient one up to its first warning**, with any options and for any tree.  If
there is none, both give the same text or fail in the same way.  If there is one, the strict run fails
for what it warns of, with the notices up to it, whatever becomes of the lenient one. -/
theorem render_strict (fs : FileSystem) (root : Node) (o : RtfOptions) :
    let strict := render fs root (some (.rtf { o with failOnResourceErrors := .bool true })) []
    let lenient := render fs root (some (.rtf { o with failOnResourceErrors := .bool false })) []
    (∀ r, strict.result = .ok r
      ↔ lenient.result = .ok r ∧ ∀ url cause, .embeddingFailed url cause ∉ lenient.log)
    ∧ ((∀ url cause, .embeddingFailed url cause ∉ lenient.log) → strict = lenient)
    ∧ ∀ before url cause after, lenient.log = before ++ .embeddingFailed url cause :: after →
      (∀ url' cause', .embeddingFailed url' cause' ∉ before) →
      strict.log = before ++ [.embeddingFailed url cause]
      ∧ ∃ message, strict.result
        = .error (.rendering (.text message) (.text "image_processing") (some cause)) := by
  intro strict lenient
  have hstrict : strict = lenient.escalated := renderWith_escalated fs o root
  refine ⟨fun r => ?_, fun hnone => ?_, fun before url cause after hlog hbefore => ?_⟩
  · rw [hstrict, escalated_eq_ok, IsQuiet, Notice.forall_failure?_eq_none]
  · rw [hstrict]
    exact IsQuiet.escalated (Notice.forall_failure?_eq_none.mpr hnone)
  · rw [hstrict, escalated, hlog,
      Notice.upToFailure_of_append (Notice.forall_failure?_eq_none.mpr hbefore) rfl]
    exact ⟨rfl, _, rfl⟩

/-- Two images of a kind that is not embedded: the strict run ends at the first of them. -/
theorem render_strict_sample :
    let image (url : Text) : Node := .leaf (.image (.text url) (.text []) .null .null .null .null)
    let root : Node := .branch .document [image "a.bmp", image "b.bmp"] .null
    let o : RtfOptions := { embedImages := .bool true, failOnResourceErrors := .bool true }
    let why : Failure := .invalid (.imageFormat (.text "a.bmp"))
    (render ⟨.directory [], []⟩ root (some (.rtf o)) []).log = [.embeddingFailed (.text "a.bmp") why]
      ∧ ∃ message, (render ⟨.directory [], []⟩ root (some (.rtf o)) []).result
        = .error (.rendering (.text message) (.text "image_processing") (some why)) := by
  intro image root o why
  have hlog : (render ⟨.directory [], []⟩ root
      (some (.rtf { o with failOnResourceErrors := .bool false })) []).log
        = [] ++ .embeddingFailed (.text "a.bmp") why
          :: [.embeddingFailed (.text "b.bmp") (.invalid (.imageFormat (.text "b.bmp"))),
            .renderingDone] := by
    simp only [render, renderWith, Walk.render_eq]
    rfl
  exact (render_strict _ root o).2.2 _ _ _ _ hlog fun _ _ => List.not_mem_nil

end Conversion

end RichText
