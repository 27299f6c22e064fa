import RichText.Proofs.Draft
import RichText.Proofs.Missing
import RichText.Proofs.Passage
import RichText.Proofs.TreeJson

/-!
# Proofs/Embedding — what becomes of images that are embedded

    load ──an image──────────▸ its picture
      ├────nothing, a problem▸ the link that stands there without embedding
      └────a cycle of links──▸ no RTF at all

A draft that lacks nothing is rendered with its images embedded, and problems of images are no errors.
Then a problem of an image costs the picture and nothing else, but two failures get through: the path
of an image may run in a cycle of links, and the size of a picture may have too many digits to be
written (`Node.embeddingFault?`).
-/

namespace RichText

/-! ## Sizes -/

/-- Whether the twips of a size in pixels can be written. -/
@[irreducible] def Value.fitsTwips (v : Value) : Bool :=
  decide (Text.IsShort (v.int?.getD 0 * 15))

theorem Value.fitsTwips_iff (v : Value) :
    v.fitsTwips = true ↔ Text.IsShort (v.int?.getD 0 * 15) := by
  unfold fitsTwips
  exact decide_eq_true_iff

theorem Value.fitsTwips_of_int? {v : Value} {i : Int} (h : v.int? = some i) :
    v.fitsTwips = true ↔ Text.IsShort (i * 15) := by
  rw [v.fitsTwips_iff, h, Option.getD_some]

theorem Text.isShort_zero_mul : IsShort (0 * 15) := isShort_of_natAbs_lt_ten (by decide)

theorem Value.fitsTwips_null : Value.null.fitsTwips = true :=
  (fitsTwips_iff _).mpr Text.isShort_zero_mul

namespace Rtf

/-- The failure of a size that has too many digits. -/
def sizeFault? (v : Value) : Option Failure :=
  if v.fitsTwips then none else some (.invalid .digitsWritten)

theorem twips_of_int? {v : Value} {i : Int} (h : v.int? = some i) : twips v = .ok (i * 15) := by
  cases v with
  | int j => cases h; rfl
  | bool b => cases h; rfl
  | _ => cases h

theorem eq_zero_of_not_truthy {v : Value} {i : Int} (h : v.int? = some i)
    (ht : v.truthy = false) : i = 0 := by
  cases v with
  | int j => cases h; simpa [Value.truthy] using ht
  | bool b => cases h; simp_all [Value.truthy]
  | _ => cases h

/-- **A size is written**, unless it has too many digits. -/
theorem pictureLength_endsIn (word : Text) {v : Value} (hv : v = .null ∨ v.IsInt) :
    EndsIn (fun _ => True) (pictureLength word v) (sizeFault? v) := by
  rw [pictureLength, sizeFault?]
  cases ht : v.truthy with
  | false =>
    have hfits : v.fitsTwips = true := by
      obtain rfl | ⟨i, hi⟩ := hv
      · exact Value.fitsTwips_null
      · rw [Value.fitsTwips_of_int? hi, eq_zero_of_not_truthy hi ht]
        exact Text.isShort_zero_mul
    rw [hfits, if_pos rfl, if_neg Bool.false_ne_true]
    exact .ok trivial
  | true =>
    obtain ⟨i, hi⟩ := hv.resolve_left (by rintro rfl; exact Bool.false_ne_true ht)
    have hlimit : (i * 15).natAbs < Nat.pow 10 Text.digitLimit ↔ v.fitsTwips = true :=
      (Value.fitsTwips_of_int? hi).symm
    rw [if_pos rfl, twips_of_int? hi]
    dsimp only [bind, Except.bind]
    cases hfits : v.fitsTwips with
    | true =>
      rw [if_pos (hlimit.mpr hfits), if_pos rfl]
      exact .ok trivial
    | false =>
      rw [if_neg (by rw [hlimit, hfits]; exact Bool.false_ne_true), if_neg Bool.false_ne_true]
      rfl

theorem picture_endsIn (image : EmbeddedImage) {width height : Value}
    (hwidth : width = .null ∨ width.IsInt) (hheight : height = .null ∨ height.IsInt) :
    EndsIn (fun _ => True) (picture image width height) ((sizeFault? width).or (sizeFault? height)) :=
  (pictureLength_endsIn _ hwidth).bind fun _ _ =>
    (pictureLength_endsIn _ hheight).andThen fun _ _ => ⟨_, rfl, trivial⟩

end Rtf

/-! ## Images -/

/-- **Why an image that is embedded has no RTF**, though problems of images are no errors. -/
def Node.embeddingFault? (fs : FileSystem) (loader : ImageLoader) : Node → Option Failure
  | leaf (.image url _ _ width height _) =>
    match (loader.load fs url).result with
    | .ok (some _) => (Rtf.sizeFault? width).or (Rtf.sizeFault? height)
    | .error .linkLoop => some .linkLoop
    | _ => none
  | _ => none

/-- **What an image is shown as**: the picture that is loaded, or a link to it. -/
inductive Leaf.IsShownAs (fs : FileSystem) (context : RenderContext) (loader : ImageLoader)
    (url alt width height : Value) (own : Text) : Prop
  | picture {source : EmbeddedImage} (hload : (loader.load fs url).result = .ok (some source))
    (h : Rtf.picture source width height = .ok own)
  | link (hload : ∀ source, (loader.load fs url).result ≠ .ok (some source))
    (h : imageLink context url alt = .ok (.text own))

namespace ImageLoader

variable {fs : FileSystem} {loader : ImageLoader}

/-- Limits that options take are compared with every size. -/
theorem exists_isBelow {limit : Value} (h : Options.checkAssetSize limit = .ok ()) (n : Nat) :
    ∃ b, limit.isBelow n = .ok b := by
  cases limit with
  | float x => exact ⟨_, rfl⟩
  | int i => exact ⟨_, rfl⟩
  | bool b => exact ⟨_, rfl⟩
  | _ => exact nomatch h

/-- A file whose path is not located is not loaded for just that. -/
theorem load_eq_error {url format : Text} {e : Failure} (huri : Image.isDataUri url = false)
    (hscheme : Text.hasInfix "://" url = false) (hempty : url.isEmpty = false)
    (hformat : Image.formatOfPath? (.ofText url) = some format)
    (hblip : (Image.blip? format).isNone = false)
    (hfile : locate fs (loader.sourceDirectory.join url) = .error e) :
    (loader.load fs (.text url)).result = .error e := by
  have hload : loadFile fs loader url = .error e := by
    rw [loadFile, hempty, if_neg Bool.false_ne_true, hformat]
    dsimp only
    rw [hblip, if_neg Bool.false_ne_true, hfile]
    rfl
  rw [load, huri, hscheme, hload]
  rfl

section Limit

variable (h : Options.checkAssetSize loader.limit = .ok ()) {url : Text}

include h

theorem isBelow_failsAs (P : Failure → Prop) (n : Nat) : FailsAs P (loader.limit.isBelow n) := by
  obtain ⟨b, hb⟩ := exists_isBelow h n
  rw [hb]
  exact .ok b

/-- An image of an address is loaded, or not for a problem of the image or a cycle of links. -/
theorem load_failsAs_of_limit : FailsAs (fun e => e.isImageProblem = true ∨ e = .linkLoop)
    (loader.load fs (.text url)).result :=
  load_failsAs (fun _ => .inl) (isBelow_failsAs h _) (locate_failsAs (fun _ => .inl) (.inr rfl) _)
    (locate_failsAs (fun _ => .inl) (.inr rfl) _)

/-- **Where paths lead to a place**, an image is loaded, or not for a problem of the image. -/
theorem load_failsAs_of_leadsTo (hfs : fs.IsSound) {directory place : List Text}
    (hdirectory : fs.LeadsTo loader.sourceDirectory directory)
    (hplace : fs.LeadsTo (loader.sourceDirectory.join url) place) :
    FailsAs (fun e => e.isImageProblem = true) (loader.load fs (.text url)).result :=
  load_failsAs (fun _ => id) (isBelow_failsAs h _)
    (locate_failsAs_of_leadsTo (fun _ => id) hfs hplace)
    (locate_failsAs_of_leadsTo (fun _ => id) hfs hdirectory)

end Limit

end ImageLoader

namespace Leaf

variable {fs : FileSystem} {context : RenderContext} {loader : ImageLoader}

/-- What becomes of an image, where problems of images are no errors. -/
theorem result_embedded? (hlenient : context.failOnResourceErrors.truthy = false) (t : Text)
    (width height : Value) :
    (embedded? fs context loader (.text t) width height).result
      = match (loader.load fs (.text t)).result with
        | .ok none => .ok none
        | .ok (some source) => (Rtf.picture source width height).map some
        | .error cause => if cause.isImageProblem then .ok none else .error cause := by
  rw [embedded?]
  dsimp only
  cases (loader.load fs (.text t)).result with
  | ok found => cases found <;> rfl
  | error cause =>
    dsimp only
    cases cause.isImageProblem with
    | false => rfl
    | true =>
      rw [Bool.not_true, if_neg Bool.false_ne_true, hlenient, if_neg Bool.false_ne_true, if_pos rfl]

/-- The rule of an image that is embedded: its picture, or a link to it. -/
theorem result_rule_image {url alt title width height metadata : Value}
    (hloader : context.imageLoader = some loader) (hurl : url.isNull = false) :
    (rule fs context (.image url alt title width height metadata)).result
      = (embedded? fs context loader url width height).result >>= fun picture =>
        match picture with
        | some t => .ok (.text t)
        | none => imageLink context url alt := by
  rw [rule, hurl, if_neg Bool.false_ne_true, hloader]
  dsimp only
  obtain ⟨log, result⟩ := embedded? fs context loader url width height
  cases result with
  | error e => rfl
  | ok picture => cases picture <;> rfl

/-- **An image that is embedded leniently** is shown as its picture or as a link, unless there is a
fault. -/
theorem rule_embedded_endsIn {url alt title width height metadata : Value}
    (hloader : context.imageLoader = some loader)
    (hlimit : Options.checkAssetSize loader.limit = .ok ())
    (hlenient : context.failOnResourceErrors.truthy = false)
    (hbase : context.baseUrl.truthy = false) (hurl : url.IsAddress)
    (halt : alt = .null ∨ alt.IsText) (hwidth : width = .null ∨ width.IsInt)
    (hheight : height = .null ∨ height.IsInt) :
    EndsIn (fun r => ∃ own, r = .text own ∧ IsShownAs fs context loader url alt width height own)
      (rule fs context (.image url alt title width height metadata)).result
      ((Node.leaf (.image url alt title width height metadata)).embeddingFault? fs loader) := by
  obtain ⟨own, hown⟩ : ∃ own, imageLink context url alt = .ok (.text own) := by
    have hends := imageLink_endsIn hurl halt (.inl hbase)
    rw [Url.refusal?_of_not_truthy hbase] at hends
    exact hends.exists_text_iff.mpr rfl
  rw [result_rule_image hloader hurl.isNull, Node.embeddingFault?]
  obtain ⟨t, rfl, ht⟩ := hurl
  have hfails : FailsAs (fun e => e.isImageProblem = true ∨ e = .linkLoop)
      (loader.load fs (.text t)).result := ImageLoader.load_failsAs_of_limit hlimit
  rw [result_embedded? hlenient]
  cases hload : (loader.load fs (.text t)).result with
  | ok found =>
    cases found with
    | none => exact ⟨_, hown, own, rfl, .link (by rw [hload]; exact nofun) hown⟩
    | some source =>
      have hpicture := Rtf.picture_endsIn source hwidth hheight
      dsimp only
      cases hp : Rtf.picture source width height with
      | ok own' =>
        rw [hpicture.exists_ok_iff.mp ⟨own', hp, trivial⟩]
        exact ⟨_, rfl, own', rfl, .picture hload hp⟩
      | error e =>
        rw [(hpicture.eq_error_iff e).mp hp]
        rfl
  | error cause =>
    rcases hfails cause hload with hproblem | rfl
    · have hresult : EndsIn (fun r => ∃ own, r = .text own
          ∧ IsShownAs fs context loader (.text t) alt width height own)
          (imageLink context (.text t) alt) none :=
        ⟨_, hown, own, rfl, .link (by rw [hload]; exact nofun) hown⟩
      dsimp only
      rw [if_pos hproblem]
      split
      · next heq => cases heq
      · next heq =>
        cases heq
        exact (Bool.false_ne_true hproblem).elim
      · exact hresult
    · rfl

end Leaf

/-! ## Trees -/

namespace Node

variable {fs : FileSystem}

/-- What is a size in a node of a draft is one in the draft. -/
theorem IsDraft.mem_sizes {n m : Node} (h : n.IsDraft) (hm : m ∈ n.postOrder) {v : Value}
    (hv : v ∈ m.sizes) : v ∈ n.sizes := by
  induction h with
  | text _ => exact mem_postOrder_leaf.mp hm ▸ hv
  | image _ _ => exact mem_postOrder_leaf.mp hm ▸ hv
  | foreign _ => exact mem_postOrder_leaf.mp hm ▸ hv
  | branch _ _ ih =>
    rcases mem_postOrder_branch.mp hm with hm | rfl
    · obtain ⟨c, hc, hm⟩ := mem_allPostOrder.mp hm
      exact mem_allSizes.mpr ⟨c, hc, ih c hc hm⟩
    · exact hv

theorem allShownNodes_eq {children : List Node} (hnull : ∀ c ∈ children, c.isNull = false)
    (h : ∀ c ∈ children, c.shownNodes = c.preOrder) :
    allShownNodes children = allPreOrder children := by
  induction children with
  | nil => rfl
  | cons c rest ih =>
    obtain ⟨hc, hrest⟩ := List.forall_mem_cons.mp hnull
    obtain ⟨hfirst, hothers⟩ := List.forall_mem_cons.mp h
    rw [allShownNodes, allPreOrder, hc, if_neg Bool.false_ne_true, hfirst, ih hrest hothers]

/-- Every node of a draft is rendered. -/
theorem IsDraft.shownNodes_eq {n : Node} (h : n.IsDraft) : n.shownNodes = n.preOrder := by
  induction h with
  | text _ => rw [shownNodes, preOrder]; exact nofun
  | image _ _ => rw [shownNodes, preOrder]; exact nofun
  | foreign _ => rw [shownNodes, preOrder]; exact nofun
  | branch _ hchildren ih =>
    rw [shownNodes, preOrder, allShownNodes_eq (fun c hc => (hchildren c hc).isNull) ih]

/-- A passage is that of a node of the draft. -/
theorem IsDraft.mem_postOrder_of_mem_passages {context : RenderContext} {n : Node} (hn : n.IsDraft)
    {t : Text} (h : (n.render fs context).result = .ok (.text t)) {p : Passage}
    (hp : p ∈ n.passages fs context [] []) : p.node ∈ n.postOrder := by
  rw [← mem_preOrder, ← hn.shownNodes_eq, ← map_node_passages n h]
  exact List.mem_map_of_mem hp

end Node

/-! ## Options -/

/-- **Options that embed images and take no problem of an image for an error**, without a base URL. -/
structure RtfOptions.EmbedsLeniently (o : RtfOptions) : Prop where
  embeds : o.embedImages.truthy = true
  lenient : o.failOnResourceErrors.truthy = false
  base : o.baseUrl.truthy = false
  directory : o.sourceDirectory = .null ∨ o.sourceDirectory.IsText
  limit : Options.checkAssetSize o.maxAssetSize = .ok ()

namespace Conversion

variable {fs : FileSystem} {o : RtfOptions} {loader : ImageLoader} {root : Node}

/-- The context of options that embed images. -/
def embedding (o : RtfOptions) (loader : ImageLoader) : RenderContext :=
  { contextOf o with imageLoader := some loader }

/-- A source directory that there is none of, or a text, has a loader. -/
theorem exists_create {directory limit : Value} (h : directory = .null ∨ directory.IsText) :
    ∃ loader, ImageLoader.create fs directory limit = .ok loader ∧ loader.limit = limit := by
  rw [ImageLoader.create.eq_def]
  split
  · exact ⟨_, rfl, rfl⟩
  · next hdirectory =>
    obtain rfl | ⟨t, rfl⟩ := h
    · exact (hdirectory rfl).elim
    · exact ⟨_, rfl, rfl⟩

theorem renderWith_embedding (hembed : o.embedImages.truthy = true)
    (hcreate : ImageLoader.create fs o.sourceDirectory o.maxAssetSize = .ok loader) (root : Node) :
    renderWith fs o root = do
      let rendered ← root.render fs (embedding o loader)
      Outcome.note .renderingDone
      return rendered := by
  have hcontext : RenderContext.ofOptions fs o = .ok (embedding o loader) := by
    rw [RenderContext.ofOptions, hembed, hcreate]
    rfl
  rw [renderWith, hcontext, ← Walk.render_eq]
  rfl

section Embedding

variable (ho : o.EmbedsLeniently) (hlimit : loader.limit = o.maxAssetSize) (hroot : root.IsFinished)
  (hsizes : ∀ v ∈ root.sizes, v = .null ∨ v.IsInt)

include ho hlimit hroot hsizes

/-- The rule of an image of a draft that lacks nothing. -/
theorem image_endsIn {url alt title width height metadata : Value}
    (hm : .leaf (.image url alt title width height metadata) ∈ root.postOrder) :
    EndsIn (fun r => ∃ own, r = .text own
        ∧ Leaf.IsShownAs fs (embedding o loader) loader url alt width height own)
      (Leaf.rule fs (embedding o loader) (.image url alt title width height metadata)).result
      ((Node.leaf (.image url alt title width height metadata)).embeddingFault? fs loader) := by
  have hurl := hroot.gap? _ hm
  have hsize (v : Value) (hv : v ∈ [width, height]) : v = .null ∨ v.IsInt :=
    hsizes v (hroot.isDraft.mem_sizes hm hv)
  cases hroot.isDraft.of_mem hm with
  | image haddress halt =>
    refine Leaf.rule_embedded_endsIn rfl (hlimit ▸ ho.limit) ho.lenient ho.base
      (haddress.resolve_left ?_) halt (hsize _ (by simp)) (hsize _ (by simp))
    rintro rfl
    exact nomatch hurl

/-- **A draft that lacks nothing, with its images embedded**, gives a text, or fails as the first image
in post-order does that has a fault. -/
theorem render_embedding_endsIn :
    EndsIn GivesText (root.render fs (embedding o loader)).result
      (root.postOrder.findSome? (Node.embeddingFault? fs loader)) := by
  have hflaw {n : Node} (hn : n ∈ root.postOrder) : n.flaw? o.baseUrl = none := by
    rw [flaw?_of_not_truthy ho.base, hroot.gap? n hn]
    rfl
  refine Node.render_endsIn_of hroot.isDraft (fun l hl => ?_) fun b children metadata hm => ?_
  · have hdraft := hroot.isDraft.of_mem hl
    have hplain : EndsIn GivesText (l.rule fs (contextOf o)).result none :=
      hflaw hl ▸ Leaf.rule_endsIn hdraft (.inl ho.base) rfl
    cases hdraft with
    | text _ => exact hplain
    | foreign _ => exact hplain
    | image _ _ =>
      exact (image_endsIn ho hlimit hroot hsizes hl).mono fun r ⟨own, hr, _⟩ => ⟨own, hr⟩
  · have hends : EndsIn (fun _ => True) (b.enclosure (embedding o loader)).result
        ((Node.branch b children metadata).flaw? o.baseUrl) := by
      cases hroot.isDraft.of_mem hm with
      | branch hb _ => exact Branch.enclosure_endsIn hb (.inl ho.base) children metadata
    rwa [hflaw hm] at hends

/-- Rendering with the options ends as the tree does. -/
theorem renderWith_embedding_endsIn
    (hcreate : ImageLoader.create fs o.sourceDirectory o.maxAssetSize = .ok loader) :
    EndsIn GivesText (renderWith fs o root).result
      (root.postOrder.findSome? (Node.embeddingFault? fs loader)) := by
  rw [renderWith_embedding ho.embeds hcreate, ← Option.or_none (o := List.findSome? _ _)]
  exact Outcome.endsIn_bind (render_embedding_endsIn ho hlimit hroot hsizes) fun r hr => EndsIn.ok hr

/-- At the passage of an image stands what it is shown as. -/
theorem isShownAs_of_mem_passages {t : Text}
    (h : (root.render fs (embedding o loader)).result = .ok (.text t)) {p : Passage}
    (hp : p ∈ root.passages fs (embedding o loader) [] [])
    {url alt title width height metadata : Value}
    (hnode : p.node = .leaf (.image url alt title width height metadata)) :
    Leaf.IsShownAs fs (embedding o loader) loader url alt width height p.own := by
  have hm := hnode ▸ hroot.isDraft.mem_postOrder_of_mem_passages h hp
  have hrule := (Walk.stands_of_render h hp).render_eq
  rw [hnode] at hrule
  obtain ⟨own, hown, hshown⟩ := (image_endsIn ho hlimit hroot hsizes hm).of_eq_ok hrule
  cases hown
  exact hshown

end Embedding

/-- A link to an image is what the image alone is rendered as without embedding. -/
theorem render_image_plain {url alt title width height metadata : Value} (hurl : url.isNull = false)
    {own : Text} (h : Leaf.imageLink (embedding o loader) url alt = .ok (.text own)) :
    (render fs (.leaf (.image url alt title width height metadata))
      (some (.rtf { o with embedImages := .bool false })) []).result = .ok (.text own) := by
  have hrule : (Leaf.rule fs (contextOf o) (.image url alt title width height metadata)).result
      = .ok (.text own) := by
    rw [Leaf.rule, hurl, if_neg Bool.false_ne_true]
    exact h
  rw [render_rtf, renderWith_eq rfl]
  exact Outcome.result_bind_eq_ok.mpr ⟨_, hrule, rfl⟩

/-- **A problem of an image costs the picture and nothing else.**  Where problems are no errors, a draft
that lacks nothing is rendered unless an image has a fault, and otherwise fails for the first one in
post-order: its path runs in a cycle of links, or its size has too many digits.  Where paths lead to a
place there is no cycle.  In the RTF every image stands as its picture, if one is loaded, and else as
just the link that it is without embedding. -/
theorem render_embedding {o : RtfOptions} (ho : o.EmbedsLeniently) {root : Node}
    (hroot : root.IsFinished) (hsizes : ∀ v ∈ root.sizes, v = .null ∨ v.IsInt) (fs : FileSystem) :
    ∃ loader, ImageLoader.create fs o.sourceDirectory o.maxAssetSize = .ok loader
      ∧ ((∃ t, (render fs root (some (.rtf o)) []).result = .ok (.text t))
        ↔ ∀ n ∈ root.postOrder, n.embeddingFault? fs loader = none)
      ∧ (∀ e, (render fs root (some (.rtf o)) []).result = .error e
        ↔ root.postOrder.findSome? (Node.embeddingFault? fs loader) = some e)
      ∧ (fs.IsSound → ∀ directory, fs.LeadsTo loader.sourceDirectory directory →
        ∀ url place, fs.LeadsTo (loader.sourceDirectory.join url) place →
          (loader.load fs (.text url)).result ≠ .error .linkLoop)
      ∧ ∀ t, (render fs root (some (.rtf o)) []).result = .ok (.text t) →
        (root.passages fs (embedding o loader) [] []).map Passage.node = root.preOrder
        ∧ ∀ p ∈ root.passages fs (embedding o loader) [] [], p.before ++ p.own <+: t
          ∧ ∀ url alt title width height metadata,
            p.node = .leaf (.image url alt title width height metadata) →
            (∃ source, (loader.load fs url).result = .ok (some source)
              ∧ Rtf.picture source width height = .ok p.own)
            ∨ (∀ source, (loader.load fs url).result ≠ .ok (some source))
              ∧ (render fs p.node (some (.rtf { o with embedImages := .bool false })) []).result
                = .ok (.text p.own) := by
  obtain ⟨loader, hcreate, hlimit⟩ : ∃ loader,
      ImageLoader.create fs o.sourceDirectory o.maxAssetSize = .ok loader
        ∧ loader.limit = o.maxAssetSize := exists_create ho.directory
  have hends := renderWith_embedding_endsIn ho hlimit hroot hsizes hcreate
  refine ⟨loader, hcreate, ?_, hends.eq_error_iff, fun hfs directory hdirectory url place hplace => ?_,
    fun t ht => ?_⟩
  · rw [render_rtf, hends.exists_text_iff, List.findSome?_eq_none_iff]
  · intro hloop
    exact Bool.false_ne_true (ImageLoader.load_failsAs_of_leadsTo (hlimit ▸ ho.limit) hfs hdirectory
      hplace _ hloop)
  · rw [render_rtf, renderWith_embedding ho.embeds hcreate] at ht
    obtain ⟨rendered, hrender, hdone⟩ := Outcome.result_bind_eq_ok.mp ht
    cases hdone
    refine ⟨(Node.map_node_passages root hrender).trans hroot.isDraft.shownNodes_eq, fun p hp => ?_⟩
    refine ⟨(Walk.stands_of_render hrender hp).own_le, ?_⟩
    intro url alt title width height metadata hnode
    cases isShownAs_of_mem_passages ho hlimit hroot hsizes hrender hp hnode with
    | picture hload hpicture => exact Or.inl ⟨_, hload, hpicture⟩
    | link hload hlink =>
      have hgap := hroot.gap? _ (hroot.isDraft.mem_postOrder_of_mem_passages hrender hp)
      rw [hnode] at hgap ⊢
      exact Or.inr ⟨hload, render_image_plain (Gap.isNull_of_ofValue? hgap) hlink⟩

section Samples

/-- An image without a title and a size. -/
def plainImage (url : Text) : Node :=
  .leaf (.image (.text url) (.text "a") .null .null .null (.dict []))

theorem isFinished_plainImage {url : Text} (h : url.hasSurrogate = false) :
    (plainImage url).IsFinished :=
  Node.isFinished_leaf (.image (.inr ⟨_, rfl, h⟩) (.inr ⟨_, rfl⟩)) rfl

/-- An image without a size has no fault if its path is no cycle. -/
theorem embeddingFault?_plainImage {url : Text}
    (h : (loader.load fs (.text url)).result ≠ .error .linkLoop) :
    (plainImage url).embeddingFault? fs loader = none := by
  rw [plainImage, Node.embeddingFault?]
  split
  · rw [Rtf.sizeFault?, Value.fitsTwips_null, if_pos rfl]
    rfl
  · next hloop => exact (h hloop).elim
  · rfl

/-- Options that embed images, and nothing else. -/
def embeddingOptions : RtfOptions := { embedImages := .bool true }

theorem embedsLeniently_embeddingOptions : embeddingOptions.EmbedsLeniently :=
  ⟨rfl, rfl, rfl, .inl rfl, rfl⟩

/-- An image that is a file, and one that is not there. -/
theorem render_embedding_sample :
    let fs : FileSystem := ⟨.directory [("a.png", .file [0x68])], []⟩
    let root : Node := .branch .document [plainImage "a.png", plainImage "b.png"] (.dict [])
    ∃ t, (render fs root (some (.rtf embeddingOptions)) []).result = .ok (.text t) := by
  intro fs root
  have hroot : root.IsFinished := Node.isFinished_branch trivial rfl (List.forall_mem_cons.mpr
    ⟨isFinished_plainImage rfl, List.forall_mem_singleton.mpr (isFinished_plainImage rfl)⟩)
  have hsizes : ∀ v ∈ root.sizes, v = .null ∨ v.IsInt := by
    simp [root, Node.sizes, Node.allSizes, plainImage]
  obtain ⟨loader, hcreate, hiff, -, hnoLoop, -⟩ :=
    render_embedding embedsLeniently_embeddingOptions hroot hsizes fs
  cases hcreate
  have hfs : fs.IsSound := ⟨List.forall_mem_nil _, ⟨_, rfl⟩⟩
  have hdirectory : fs.LeadsTo ⟨"/", []⟩ [] := ⟨0, .done⟩
  have ha := hnoLoop hfs _ hdirectory "a.png" ["a.png"]
    ⟨0, .enter (by decide) (by rintro _ ⟨⟩) .done⟩
  have hb := hnoLoop hfs _ hdirectory "b.png" ["b.png"]
    ⟨0, .enter (by decide) (by rintro _ ⟨⟩) .done⟩
  have hpost : root.postOrder = [plainImage "a.png", plainImage "b.png", root] := rfl
  rw [hpost] at hiff
  exact hiff.mpr (List.forall_mem_cons.mpr ⟨embeddingFault?_plainImage ha, List.forall_mem_cons.mpr
    ⟨embeddingFault?_plainImage hb, List.forall_mem_singleton.mpr rfl⟩⟩)

/-- **A path that runs in a cycle of links ends the rendering**, though problems of images are no
errors: the failure to resolve it is none of those that are caught. -/
theorem render_image_in_cycle :
    let fs : FileSystem := ⟨.directory [("loop.png", .link "loop.png")], []⟩
    let root : Node := .branch .document [plainImage "loop.png"] (.dict [])
    root.IsFinished ∧ embeddingOptions.EmbedsLeniently
      ∧ (render fs root (some (.rtf embeddingOptions)) []).result = .error .linkLoop := by
  intro fs root
  have hroot : root.IsFinished := Node.isFinished_branch trivial rfl
    (List.forall_mem_singleton.mpr (isFinished_plainImage rfl))
  have hsizes : ∀ v ∈ root.sizes, v = .null ∨ v.IsInt := by
    simp [root, Node.sizes, Node.allSizes, plainImage]
  let loader : ImageLoader := ⟨⟨"/", []⟩, embeddingOptions.maxAssetSize⟩
  have hload : (loader.load fs (.text "loop.png")).result = .error .linkLoop := by
    have hformat : Image.formatOfPath? (.ofText "loop.png") = some "png" := by cbv
    have hfile : ImageLoader.locate fs (loader.sourceDirectory.join "loop.png")
        = .error .linkLoop := by cbv
    exact ImageLoader.load_eq_error rfl rfl rfl hformat rfl hfile
  have hends : EndsIn GivesText (renderWith fs embeddingOptions root).result
      (root.postOrder.findSome? (Node.embeddingFault? fs loader)) :=
    renderWith_embedding_endsIn embedsLeniently_embeddingOptions rfl hroot hsizes rfl
  have hfault : root.postOrder.findSome? (Node.embeddingFault? fs loader) = some .linkLoop := by
    simp [root, Node.postOrder, Node.allPostOrder, plainImage, Node.embeddingFault?, hload]
  rw [hfault] at hends
  exact ⟨hroot, embedsLeniently_embeddingOptions, hends⟩

end Samples

end Conversion

end RichText
