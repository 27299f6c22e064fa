import RichText.Conversion
import RichText.Proofs.Failing
import RichText.Proofs.Walk
import RichText.Tree.Order

/-!
# Proofs/Missing — a missing attribute is reported for a gap alone

Rendering can fail in many ways: for an address that cannot be read, an image that is too large, a
size that is no number.  The failure of a missing attribute comes from the four rules that look for
one, so a tree without gaps never ends in it (`Node.render_missesNothing`).
-/

namespace RichText

/-! ## Failures of missing attributes -/

/-- The failure of an attribute that is missing. -/
def Failure.IsMissing (e : Failure) : Prop := ∃ kind wanted message,
  e = missingAttribute kind wanted message

/-- **A computation that misses no attribute**, whatever else it fails for. -/
def MissesNothing {α : Type} (r : Except Failure α) : Prop := ∀ e, r = .error e → ¬ e.IsMissing

namespace MissesNothing

variable {α β : Type} {r : Except Failure α}

theorem ok (a : α) : MissesNothing (.ok a) := fun _ h => nomatch h

/-- A failure that is no missing attribute misses nothing. -/
theorem error {e : Failure} (h : ∀ kind wanted message, e ≠ .missingAttribute kind wanted message) :
    MissesNothing (.error e : Except Failure α) := by
  rintro _ ⟨⟩ ⟨kind, wanted, message, he⟩
  exact h kind wanted message he

/-- Two computations in a row miss nothing if neither does. -/
theorem bind (hr : MissesNothing r) {next : α → Except Failure β}
    (hnext : ∀ a, r = .ok a → MissesNothing (next a)) : MissesNothing (r >>= next) :=
  FailsAs.bind hr hnext

theorem map (hr : MissesNothing r) (f : α → β) : MissesNothing (r.map f) := FailsAs.map hr f

/-- A failure that is passed on is that of an earlier step. -/
theorem passedOn (hr : MissesNothing r) {e : Failure} (he : r = .error e) :
    MissesNothing (.error e : Except Failure β) := by
  rintro _ ⟨⟩
  exact hr e he

/-- The same behind notices. -/
theorem andThen {x : Outcome α} (hx : MissesNothing x.result) {next : α → Outcome β}
    (hnext : ∀ a, x.result = .ok a → MissesNothing (next a).result) :
    MissesNothing (x >>= next).result := FailsAs.andThen hx hnext

end MissesNothing

open MissesNothing (ok error bind andThen)

/-! ## Addresses and sizes -/

/-- A search in what is no text is misuse. -/
theorem Value.containsText_missesNothing (part : Text) (v : Value) :
    MissesNothing (v.containsText part) := by
  cases v <;> first | exact ok _ | exact error nofun

/-- A surrogate half is no character, which is another failure. -/
theorem Text.toUtf8_missesNothing (t : Text) : MissesNothing t.toUtf8 := by
  rw [Text.toUtf8]
  split
  · exact ok _
  · exact error nofun

namespace Url

/-- An address without a URL is invalid, not missing. -/
theorem resolve_missesNothing (address base : Value) : MissesNothing (resolve address base) := by
  rw [resolve.eq_def]
  refine bind (Value.containsText_missesNothing _ _) fun found _ => ?_
  repeat' split
  all_goals first | exact ok _ | exact error nofun

theorem quote_missesNothing (v : Value) : MissesNothing (quote v) := by
  cases v with
  | text t => exact bind (Text.toUtf8_missesNothing t) fun _ _ => ok _
  | bytes b => exact ok _
  | _ => exact error nofun

end Url

namespace Rtf

theorem hyperlink_missesNothing (context : RenderContext) (url : Value) :
    MissesNothing (hyperlink context url) :=
  bind (Url.resolve_missesNothing _ _) fun _ _ =>
    bind (Url.quote_missesNothing _) fun _ _ => ok _

/-- Content that is no text is shown as it is, or cannot be escaped. -/
theorem content_missesNothing (mode : UnicodeMode) (v : Value) :
    MissesNothing (content mode v) := by
  rw [content.eq_def]
  repeat' split
  all_goals first | exact ok _ | exact error nofun

/-- A level of zero divides by zero, and one that is no number is misuse. -/
theorem fontSize_missesNothing (level : Value) : MissesNothing (fontSize level) := by
  rw [fontSize.eq_def]
  dsimp only
  repeat' split
  all_goals first | exact ok _ | exact error nofun

theorem wholePart_missesNothing (v : Value) : MissesNothing (wholePart v) := by
  rw [wholePart.eq_def]
  repeat' split
  all_goals first | exact ok _ | exact error nofun

theorem twips_missesNothing (v : Value) : MissesNothing (twips v) := by
  rw [twips.eq_def]
  split
  · exact wholePart_missesNothing _
  · exact bind (wholePart_missesNothing _) fun _ _ => ok _

theorem pictureLength_missesNothing (word : Text) (v : Value) :
    MissesNothing (pictureLength word v) := by
  rw [pictureLength]
  split
  · refine bind (twips_missesNothing v) fun length _ => ?_
    split
    · exact ok _
    · exact error nofun
  · exact ok _

/-- A picture fails for its sizes alone. -/
theorem picture_missesNothing (image : EmbeddedImage) (width height : Value) :
    MissesNothing (picture image width height) :=
  bind (pictureLength_missesNothing _ _) fun _ _ =>
    bind (pictureLength_missesNothing _ _) fun _ _ => ok _

end Rtf

/-! ## Images -/

namespace ImageLoader

/-- An image that cannot be loaded is refused for its address, its size or its file. -/
theorem load_missesNothing (loader : ImageLoader) (fs : FileSystem) (address : Value) :
    MissesNothing (load fs loader address).result := by
  have hproblem (e : Failure) (he : e.isImageProblem = true) : ¬ e.IsMissing := by
    rintro ⟨kind, wanted, message, rfl⟩
    exact Bool.false_ne_true he
  have hloop : ¬ Failure.linkLoop.IsMissing := nofun
  have hlimit (n : Nat) : MissesNothing (loader.limit.isBelow n) := by
    rw [Value.isBelow.eq_def]
    repeat' split
    all_goals first | exact ok _ | exact error nofun
  rw [load.eq_def]
  split
  · exact load_failsAs hproblem hlimit (locate_failsAs hproblem hloop _)
      (locate_failsAs hproblem hloop _)
  · refine andThen (Value.containsText_missesNothing _ _) fun found _ => ?_
    repeat' split
    · exact andThen (ok _) fun _ _ => ok _
    · exact error nofun
    · exact error nofun

end ImageLoader

/-! ## Rules -/

variable {fs : FileSystem} {context : RenderContext}

theorem Leaf.embedded?_missesNothing (loader : ImageLoader) (url width height : Value) :
    MissesNothing (embedded? fs context loader url width height).result := by
  have hload := loader.load_missesNothing fs url
  rw [embedded?]
  dsimp only
  split
  · exact ok _
  · exact (Rtf.picture_missesNothing _ _ _).map _
  · next cause hcause =>
    split
    · exact hload.passedOn hcause
    · repeat' split
      all_goals first | exact ok _ | exact error nofun

theorem Leaf.imageLink_missesNothing (url alt : Value) :
    MissesNothing (imageLink context url alt) :=
  bind (Rtf.content_missesNothing _ _) fun _ _ =>
    bind (Rtf.hyperlink_missesNothing _ _) fun _ _ => ok _

/-- What is no gap is there. -/
theorem Gap.isNull_of_ofValue? {kind wanted : Text} {v : Value}
    (h : Gap.ofValue? kind wanted v = none) : v.isNull = false := by
  rw [Gap.ofValue?] at h
  split at h
  · cases h
  · next hv => exact Bool.not_eq_true _ ▸ hv

/-- A leaf without a gap misses no attribute. -/
theorem Leaf.rule_missesNothing {l : Leaf} (h : l.missing? = none) :
    MissesNothing (l.rule fs context).result := by
  cases l with
  | text content metadata =>
    rw [rule, Gap.isNull_of_ofValue? h, if_neg Bool.false_ne_true]
    exact Rtf.content_missesNothing _ _
  | image url alt title width height metadata =>
    rw [rule, Gap.isNull_of_ofValue? h, if_neg Bool.false_ne_true]
    dsimp only
    split
    · refine andThen (embedded?_missesNothing _ _ _ _) fun picture _ => ?_
      cases picture with
      | none => exact imageLink_missesNothing _ _
      | some t => exact ok _
    · exact imageLink_missesNothing _ _
  | foreign className => exact andThen (ok _) fun _ _ => ok _
  | stray v => exact error nofun

/-- A branch without a gap misses no attribute by itself. -/
theorem Branch.enclosure_missesNothing {b : Branch} (h : b.missing? = none) :
    MissesNothing (b.enclosure context).result := by
  cases b with
  | heading level =>
    rw [enclosure, Gap.isNull_of_ofValue? h, if_neg Bool.false_ne_true]
    exact bind (Rtf.fontSize_missesNothing _) fun _ _ =>
      bind (Rtf.wholePart_missesNothing _) fun _ _ => ok _
  | link url title =>
    rw [enclosure, Gap.isNull_of_ofValue? h, if_neg Bool.false_ne_true]
    exact Rtf.hyperlink_missesNothing _ _
  | element tag attributes => exact andThen (ok _) fun _ _ => ok _
  | _ => exact ok _

/-- What is no text cannot be joined, which is misuse. -/
theorem Rendered.join_missesNothing (rs : List Rendered) : MissesNothing (join rs) := by
  induction rs with
  | nil => exact ok _
  | cons r rest ih =>
    cases r with
    | text t => exact ih.map _
    | value v => exact error nofun

/-- A node without a gap misses no attribute once its children are rendered. -/
theorem Node.rule_missesNothing {n : Node} (h : n.gap? = none) (children : List Rendered) :
    MissesNothing (n.rule fs context children).result := by
  refine andThen (Rendered.join_missesNothing children) fun body _ => ?_
  cases n with
  | leaf l => exact Leaf.rule_missesNothing h
  | branch b _ _ => exact andThen (Branch.enclosure_missesNothing h) fun _ _ => ok _
  | misfilled b _ _ => exact andThen (Branch.enclosure_missesNothing h) fun _ _ => ok _

/-! ## Trees -/

namespace Node

mutual

/-- **A tree without gaps misses no attribute**, in whatever context it is rendered. -/
theorem render_missesNothing (n : Node) (h : ∀ m ∈ n.postOrder, m.gap? = none) :
    MissesNothing (n.render fs context).result := by
  match n with
  | leaf l => exact rule_missesNothing (h _ (List.mem_singleton.mpr rfl)) []
  | branch b children metadata =>
    obtain ⟨hchildren, hown⟩ := List.forall_mem_append.mp h
    rw [render]
    exact andThen (renderAll_missesNothing children hchildren) fun rs _ =>
      rule_missesNothing (hown _ (List.mem_singleton.mpr rfl)) rs
  | misfilled b value metadata =>
    rw [render]
    repeat' split
    · exact error nofun
    · exact rule_missesNothing (h _ (List.mem_singleton.mpr rfl)) []
    · exact error nofun

/-- The same for trees one after the other. -/
theorem renderAll_missesNothing (ns : List Node) (h : ∀ m ∈ allPostOrder ns, m.gap? = none) :
    MissesNothing (renderAll fs context ns).result := by
  match ns with
  | [] => exact ok _
  | n :: rest =>
    obtain ⟨hfirst, hrest⟩ := List.forall_mem_append.mp h
    rw [renderAll]
    split
    · exact ok _
    · exact andThen (render_missesNothing n hfirst) fun _ _ =>
        andThen (renderAll_missesNothing rest hrest) fun _ _ => ok _

end

end Node

/-- A tree without gaps misses no attribute with any options. -/
theorem Conversion.renderWith_missesNothing (fs : FileSystem) (o : RtfOptions) {root : Node}
    (h : ∀ m ∈ root.postOrder, m.gap? = none) : MissesNothing (renderWith fs o root).result := by
  have hcontext : MissesNothing (RenderContext.ofOptions fs o) := by
    have hloader : MissesNothing (ImageLoader.create fs o.sourceDirectory o.maxAssetSize) := by
      rw [ImageLoader.create.eq_def]
      repeat' split
      all_goals first | exact ok _ | exact error nofun
    rw [RenderContext.ofOptions]
    split
    · exact MissesNothing.bind (hloader.map some) fun _ _ => ok _
    · exact ok _
  refine andThen hcontext fun context _ => andThen ?_ fun _ _ => andThen (ok _) fun _ _ => ok _
  rw [Walk.render_eq]
  exact Node.render_missesNothing root h

end RichText
