import RichText.Proofs.Draft
import RichText.Proofs.UnicodeMode
import RichText.Tree.Display

/-!
# Proofs/Display — rendering depends on what is shown

    tree ──displayed──▸ · ──unsized──▸ ·
      └─────────────────┴──────────────┴─render──▸ one outcome

No rule reads metadata, the attributes of an element or the title of a link or an image, so trees that
are displayed alike have one outcome.  Without images to embed no rule looks at the file system either,
at what a loader would be made of or at the size of an image.  Both are instances of replacing parts
of a tree that no rule reads (`Node.render_map`).
-/

namespace RichText

/-! ## Parts that no rule reads -/

/-- **Replacing leaves and kinds of branches unnoticed**: with the rules of one rendering the new ones
give what the old ones give with the rules of another. -/
structure IsUnnoticed (fs fs' : FileSystem) (context context' : RenderContext)
    (onLeaf : Leaf → Leaf) (onBranch : Branch → Branch) : Prop where
  leaf (l : Leaf) : (onLeaf l).rule fs context = l.rule fs' context'
  isNull (l : Leaf) : (Node.leaf (onLeaf l)).isNull = (Node.leaf l).isNull
  branch (b : Branch) (body : Text) : (onBranch b).rule context body = b.rule context' body

namespace Node

variable {fs fs' : FileSystem} {context context' : RenderContext} {onLeaf : Leaf → Leaf}
  {onBranch : Branch → Branch} {onMetadata : Value → Value}

theorem isNull_map (h : IsUnnoticed fs fs' context context' onLeaf onBranch) (n : Node) :
    (n.map onLeaf onBranch onMetadata).isNull = n.isNull := by
  cases n with
  | leaf l => exact h.isNull l
  | branch b children metadata => rfl
  | misfilled b value metadata => rfl

mutual

/-- **A tree has the RTF of a tree with parts replaced unnoticed.** -/
theorem render_map (h : IsUnnoticed fs fs' context context' onLeaf onBranch) (n : Node) :
    (n.map onLeaf onBranch onMetadata).render fs context = n.render fs' context' := by
  match n with
  | leaf l =>
    rw [map, render, render]
    exact congrArg (Outcome.ofExcept (Rendered.join []) >>= fun _ => ·) (h.leaf l)
  | branch b children metadata =>
    rw [map, render, render, renderAll_map h children]
    refine congrArg (_ >>= ·) (funext fun rs => ?_)
    exact congrArg (Outcome.ofExcept (Rendered.join rs) >>= ·) (funext fun body => h.branch b body)
  | misfilled b value metadata =>
    have hrule : rule fs context [] (misfilled (onBranch b) value (onMetadata metadata))
        = rule fs' context' [] (misfilled b value metadata) :=
      congrArg (Outcome.ofExcept (Rendered.join []) >>= ·) (funext fun body => h.branch b body)
    have hstrays : (misfilled (onBranch b) value (onMetadata metadata)).children?
        = (misfilled b value metadata).children? := rfl
    rw [map, render, render, hrule, hstrays]

theorem renderAll_map (h : IsUnnoticed fs fs' context context' onLeaf onBranch) (ns : List Node) :
    renderAll fs context (mapAll onLeaf onBranch onMetadata ns) = renderAll fs' context' ns := by
  match ns with
  | [] => rfl
  | n :: rest =>
    rw [mapAll, renderAll, renderAll, isNull_map h n, render_map h n, renderAll_map h rest]

end

end Node

/-! ## What is not displayed -/

theorem isUnnoticed_displayed (fs : FileSystem) (context : RenderContext) :
    IsUnnoticed fs fs context context Leaf.displayed Branch.displayed where
  leaf l := by cases l <;> rfl
  isNull l := by cases l <;> rfl
  branch b body := by cases b <;> rfl

/-- **A tree has the RTF of what is displayed of it.** -/
theorem Node.render_displayed (fs : FileSystem) (context : RenderContext) (n : Node) :
    n.displayed.render fs context = n.render fs context := by
  rw [n.displayed_eq_map]
  exact render_map (isUnnoticed_displayed fs context) n

/-! ## Without images to embed -/

/-- **Options that show a tree alike**: neither embeds images, and they have one base URL and escape
characters in one way. -/
structure RtfOptions.ShowAlike (o p : RtfOptions) : Prop where
  embedsNone : o.embedImages.truthy = false
  embedsNone' : p.embedImages.truthy = false
  baseUrl : o.baseUrl = p.baseUrl
  unicodeMode : o.unicodeMode = p.unicodeMode

namespace Conversion

variable {o p : RtfOptions}

/-- Without a loader the rule of an image asks for neither its size nor a file. -/
theorem isUnnoticed_unsized (h : o.ShowAlike p) (fs fs' : FileSystem) :
    IsUnnoticed fs fs' (contextOf o) (contextOf p) Leaf.unsized id := by
  rw [contextOf, contextOf, h.baseUrl, h.unicodeMode]
  exact ⟨fun l => by cases l <;> rfl, fun l => by cases l <;> rfl, fun b _ => by cases b <;> rfl⟩

variable {n m : Node}

/-- Options apart, an outcome is that of what is displayed. -/
theorem renderWith_displayed (fs : FileSystem) (o : RtfOptions) (n : Node) :
    renderWith fs o n.displayed = renderWith fs o n := by
  have hwalk (context : RenderContext) :
      Walk.render fs context n.displayed = Walk.render fs context n := by
    rw [Walk.render_eq, Walk.render_eq, n.render_displayed]
  simp only [renderWith, hwalk]

theorem renderWith_of_showAlike (h : o.ShowAlike p)
    (hsame : n.displayed.unsized = m.displayed.unsized) (fs fs' : FileSystem) :
    renderWith fs o n = renderWith fs' p m := by
  have hrender : n.displayed.render fs (contextOf o) = m.displayed.render fs' (contextOf p) := by
    -- Both trees have the RTF of the tree without sizes; it does not matter with which options.
    have hself : o.ShowAlike o := ⟨h.embedsNone, h.embedsNone, rfl, rfl⟩
    rw [← Node.render_map (isUnnoticed_unsized hself fs fs), ← Node.unsized, hsame, Node.unsized,
      Node.render_map (isUnnoticed_unsized h fs fs')]
  rw [← renderWith_displayed fs o n, ← renderWith_displayed fs' p m, renderWith_eq h.embedsNone,
    renderWith_eq h.embedsNone', hrender]

/-- The options of the renderer that a call comes to. -/
def chosen (options : Option Options) (given : Fields) : Outcome RtfOptions := do
  refuseNames ["doc", "options", "options_class", "options_type_name"] given
  let merged ← Options.merge .rtf "renderer" options given
  Options.forRenderer (some merged)

theorem render_eq_chosen (fs : FileSystem) (root : Node) (options : Option Options)
    (given : Fields) : render fs root options given
      = chosen options given >>= fun o => renderWith fs o root := by
  simp only [render, chosen, bind_assoc]

/-- Trees that are displayed alike are rendered alike. -/
theorem render_of_displayed (hsame : n.displayed = m.displayed) (fs : FileSystem)
    (options : Option Options) (given : Fields) :
    render fs n options given = render fs m options given := by
  rw [render_eq_chosen, render_eq_chosen]
  refine congrArg (_ >>= ·) (funext fun o => ?_)
  rw [← renderWith_displayed fs o n, hsame, renderWith_displayed]

/-- **Rendering depends on what is shown.**  Trees that are displayed alike have one outcome, that is
one text or one failure and the same notices, with whatever options and files.  Where no images are
embedded the sizes of images do not matter either, nor do the files, the working directory and what
the options say of images: two calls have one outcome if the options they come to have one base URL
and one way of escaping. -/
theorem render_eq_of_displayed (n m : Node) :
    (n.displayed = m.displayed → ∀ (fs : FileSystem) (options : Option Options) (given : Fields),
      render fs n options given = render fs m options given)
    ∧ (n.displayed.unsized = m.displayed.unsized →
      (∀ (fs fs' : FileSystem) (o p : RtfOptions), o.ShowAlike p →
        render fs n (some (.rtf o)) [] = render fs' m (some (.rtf p)) [])
      ∧ ∀ (fs fs' : FileSystem) (options options' : Option Options) (given given' : Fields),
        Outcome.Agree RtfOptions.ShowAlike (chosen options given) (chosen options' given') →
          render fs n options given = render fs' m options' given') := by
  refine ⟨render_of_displayed, fun hsame => ⟨fun fs fs' o p h => ?_,
    fun fs fs' options options' given given' h => ?_⟩⟩
  · exact renderWith_of_showAlike h hsame fs fs'
  · rw [render_eq_chosen, render_eq_chosen]
    refine Outcome.Agree.eq (R := Eq) (h.bind fun o p hop => ?_) fun _ _ => id
    rw [renderWith_of_showAlike hop hsame fs fs']
    exact Outcome.agree_self fun _ _ => rfl

/-- A link, an element and an image with and without what is not shown, once where the image is a file
and once where there are no files. -/
theorem render_eq_of_displayed_sample :
    let page (unseen width : Value) : Node := .branch .document
      [.branch (.link (.text "b") unseen) [.branch (.element (.text "sub") unseen) [] unseen] unseen,
        .leaf (.image (.text "a.png") (.text "a") unseen width .null unseen)] unseen
    let bare : FileSystem := ⟨.directory [], []⟩
    let stocked : FileSystem := ⟨.directory [("a.png", .file [0x89])], ["home"]⟩
    let eager : RtfOptions :=
      { failOnResourceErrors := .bool true, maxAssetSize := .int 1, sourceDirectory := .text "/" }
    render stocked (page (.text "t") (.int 10)) none [("embed_images", .bool true)]
        = render stocked (page (.dict []) (.int 10)) none [("embed_images", .bool true)]
      ∧ render bare (page (.text "t") (.int 10)) (some (.rtf {})) []
        = render stocked (page (.dict []) (.int 20)) (some (.rtf eager)) []
      ∧ render bare (page (.text "t") (.int 10)) none [("fail_on_resource_errors", .int 1)]
        = render stocked (page (.dict []) (.int 20)) (some (.rtf eager)) [] := by
  intro page bare stocked eager
  have hpages (width : Value) :
      (page (.text "t") width).displayed = (page (.dict []) width).displayed := rfl
  have hsizes : (page (.text "t") (.int 10)).displayed.unsized
      = (page (.dict []) (.int 20)).displayed.unsized := rfl
  refine ⟨(render_eq_of_displayed _ _).1 (hpages _) _ _ _,
    ((render_eq_of_displayed _ _).2 hsizes).1 _ _ _ _ ⟨rfl, rfl, rfl, rfl⟩,
    ((render_eq_of_displayed _ _).2 hsizes).2 _ _ _ _ _ _ ?_⟩
  let strict : RtfOptions := { failOnResourceErrors := .int 1 }
  have hshow : strict.ShowAlike eager := ⟨rfl, rfl, rfl, rfl⟩
  exact Outcome.agree_pure hshow

end Conversion

end RichText
