import RichText.Conversion
import RichText.Proofs.Walk

/-!
# Proofs/Fragment — what the RTF of a tree is made of

    leaf    escaped text | a field around escaped text | a picture   (`Leaf.isFragment_of_rule`)
    branch  one enclosure a kind around the children            (`Branch.encloses_of_enclosure`)
    tree    the fragments of its nodes                                    (`Node.IsKept.render`)

What holds of the fragments of leaves, and is kept by concatenation and by enclosures, holds of the
RTF of every tree.
-/

namespace RichText

/-! ## Fields and pictures -/

namespace Rtf

/-- What stands around the RTF of a field that leads to an address, given by its bytes. -/
def fieldAround (address : List UInt8) : Enclosure :=
  ⟨"\x7b\\field\x7b\\*\\fldinst\x7bHYPERLINK " ++ Url.fieldArgument address
    ++ "\x7d\x7d\x7b\\fldrslt ", "\x7d\x7d"⟩

theorem exists_of_quote_eq_ok {v : Value} {t : Text} (h : Url.quote v = .ok t) :
    ∃ bytes, t = Url.fieldArgument bytes := by
  cases v with
  | text s =>
    rw [Url.quote] at h
    cases hs : s.toUtf8 with
    | error e => rw [hs] at h; cases h
    | ok bytes => rw [hs] at h; cases h; exact ⟨bytes, rfl⟩
  | bytes b => cases h; exact ⟨b, rfl⟩
  | _ => cases h

/-- A link is a field that leads to some address. -/
theorem exists_of_hyperlink_eq_ok {context : RenderContext} {url : Value} {e : Enclosure}
    (h : hyperlink context url = .ok e) : ∃ address, e = fieldAround address := by
  obtain ⟨target, -, h⟩ := except_bind_eq_ok.mp h
  obtain ⟨t, hq, h⟩ := except_bind_eq_ok.mp h
  obtain ⟨bytes, rfl⟩ := exists_of_quote_eq_ok hq
  cases h
  exact ⟨bytes, rfl⟩

/-- Content that has RTF is a text. -/
theorem content_eq_text {mode : UnicodeMode} {v : Value} {t : Text}
    (h : content mode v = .ok (.text t)) : ∃ s, v = .text s ∧ t = escape mode s := by
  cases v with
  | text s => cases h; exact ⟨s, rfl, rfl⟩
  | date d => cases h
  | moment m => cases h
  | _ => simp only [content] at h; split at h <;> cases h

/-- The size of a picture in one direction, where it is written. -/
theorem pictureLength_cases {word t : Text} {v : Value} (h : pictureLength word v = .ok t) :
    t = [] ∨ ∃ i, t = word ++ Text.ofInt i := by
  rw [pictureLength] at h
  split at h
  · obtain ⟨i, -, h⟩ := except_bind_eq_ok.mp h
    split at h
    · cases h
      exact Or.inr ⟨i, rfl⟩
    · cases h
  · cases h
    exact Or.inl rfl

/-- The control words of pictures. -/
theorem blip_cases (format : Text) :
    (Image.blip? format).getD [] = [] ∨ (Image.blip? format).getD [] = "\\pngblip"
      ∨ (Image.blip? format).getD [] = "\\jpegblip" := by
  rw [Image.blip?]
  split
  · exact Or.inr (Or.inl rfl)
  · split
    · exact Or.inr (Or.inr rfl)
    · exact Or.inl rfl

/-- **A picture**: its control word, its sizes and its bytes. -/
theorem exists_of_picture_eq_ok {image : EmbeddedImage} {width height : Value} {t : Text}
    (h : picture image width height = .ok t) :
    ∃ w h, pictureLength "\\picwgoal" width = .ok w ∧ pictureLength "\\pichgoal" height = .ok h
      ∧ t = "\x7b\\*\\shppict\x7b\\pict" ++ (Image.blip? image.format).getD [] ++ w ++ h ++ " "
        ++ Text.ofBytes image.data ++ "\x7d\x7d" := by
  obtain ⟨w, hw, h⟩ := except_bind_eq_ok.mp h
  obtain ⟨l, hl, h⟩ := except_bind_eq_ok.mp h
  cases h
  exact ⟨w, l, hw, hl, rfl⟩

end Rtf

/-! ## Leaves -/

/-- **What the RTF of a leaf can be.** -/
inductive Leaf.IsFragment (context : RenderContext) : Text → Prop
  | escaped (s : Text) : IsFragment context (Rtf.escape context.unicodeMode s)
  | link (address : List UInt8) (s : Text) :
    IsFragment context ((Rtf.fieldAround address).around (Rtf.escape context.unicodeMode s))
  | picture {image : EmbeddedImage} {width height : Value} {t : Text}
    (h : Rtf.picture image width height = .ok t) : IsFragment context t

namespace Leaf

variable {fs : FileSystem} {context : RenderContext}

/-- The picture of an image, where there is one. -/
theorem picture_of_embedded? {loader : ImageLoader} {url width height : Value} {t : Text}
    (h : (embedded? fs context loader url width height).result = .ok (some t)) :
    ∃ image, Rtf.picture image width height = .ok t := by
  rw [embedded?] at h
  split at h
  · cases h
  · next image _ =>
    refine ⟨image, ?_⟩
    cases hp : Rtf.picture image width height with
    | error e => rw [hp] at h; cases h
    | ok p => rw [hp] at h; cases h; rfl
  · split at h
    · cases h
    · split at h
      · cases h
      · cases h
      · dsimp only at h
        split at h <;> cases h

theorem isFragment_of_imageLink {url alt : Value} {t : Text}
    (h : imageLink context url alt = .ok (.text t)) : IsFragment context t := by
  obtain ⟨shown, hc, h⟩ := except_bind_eq_ok.mp h
  obtain ⟨e, hl, h⟩ := except_bind_eq_ok.mp h
  obtain ⟨address, rfl⟩ := Rtf.exists_of_hyperlink_eq_ok hl
  cases h
  cases shown with
  | text s =>
    obtain ⟨u, -, rfl⟩ := Rtf.content_eq_text hc
    exact .link address u
  | value v => exact .link address []

/-- **The RTF of a leaf** is escaped text, a link or a picture. -/
theorem isFragment_of_rule {l : Leaf} {t : Text}
    (h : (l.rule fs context).result = .ok (.text t)) : IsFragment context t := by
  cases l with
  | text content metadata =>
    rw [rule] at h
    split at h
    · cases h
    · obtain ⟨s, -, rfl⟩ := Rtf.content_eq_text h
      exact .escaped s
  | image url alt title width height metadata =>
    rw [rule] at h
    split at h
    · cases h
    · cases hl : context.imageLoader with
      | none =>
        rw [hl] at h
        exact isFragment_of_imageLink h
      | some loader =>
        rw [hl] at h
        obtain ⟨picture, hp, hr⟩ := Outcome.result_bind_eq_ok.mp h
        cases picture with
        | none => exact isFragment_of_imageLink hr
        | some p =>
          cases hr
          obtain ⟨image, hi⟩ := picture_of_embedded? hp
          exact .picture hi
  | foreign name =>
    cases h
    exact .escaped _
  | stray v => cases h

end Leaf

/-! ## Branches -/

/-- **What can stand around the children of a branch**, by its kind. -/
inductive Branch.Encloses (context : RenderContext) : Branch → Enclosure → Prop
  | document : Encloses context document ⟨"\x7b\\rtf1\\ansi\\fs24", "\x7d"⟩
  | heading (level : Value) (size : Int) : Encloses context (heading level)
    ⟨"\x7b\\fs" ++ Text.paddedInt 2 size ++ "\\b ", "\\b\x7d" ++ Rtf.paragraphBreak⟩
  | paragraph : Encloses context paragraph ⟨[], Rtf.paragraphBreak⟩
  | bulletList : Encloses context bulletList ⟨"\x7b\\par ", "\x7d" ++ Rtf.lineBreak⟩
  | listItem : Encloses context listItem ⟨"\\bullet\\tab ", Rtf.lineBreak⟩
  | strong : Encloses context strong ⟨"\\b ", "\\b0 "⟩
  | emphasis : Encloses context emphasis ⟨"\\i ", "\\i0 "⟩
  | inlineCode : Encloses context inlineCode ⟨"\\i\\ul ", "\\ul0\\i0 "⟩
  | link (url title : Value) (address : List UInt8) :
    Encloses context (link url title) (Rtf.fieldAround address)
  | element (tag attributes : Value) :
    Encloses context (element tag attributes) ⟨Rtf.fallback context.unicodeMode tag, []⟩

namespace Branch

variable {context : RenderContext}

theorem encloses_of_enclosure {b : Branch} {e : Enclosure}
    (h : (b.enclosure context).result = .ok e) : Encloses context b e := by
  cases b with
  | document => cases h; exact .document
  | heading level =>
    rw [enclosure] at h
    split at h
    · cases h
    · obtain ⟨size, -, h⟩ := except_bind_eq_ok.mp h
      obtain ⟨n, -, h⟩ := except_bind_eq_ok.mp h
      cases h
      exact .heading level n
  | paragraph => cases h; exact .paragraph
  | bulletList => cases h; exact .bulletList
  | listItem => cases h; exact .listItem
  | strong => cases h; exact .strong
  | emphasis => cases h; exact .emphasis
  | inlineCode => cases h; exact .inlineCode
  | link url title =>
    rw [enclosure] at h
    split at h
    · cases h
    · obtain ⟨address, rfl⟩ := Rtf.exists_of_hyperlink_eq_ok h
      exact .link url title address
  | element tag attributes => cases h; exact .element tag attributes

end Branch

/-! ## Trees -/

/-- RTF one after the other. -/
theorem Rendered.join_cons_eq_ok {r : Rendered} {rest : List Rendered} {body : Text}
    (h : join (r :: rest) = .ok body) :
    ∃ t u, r = .text t ∧ join rest = .ok u ∧ body = t ++ u := by
  cases r with
  | value v => cases h
  | text t =>
    rw [join] at h
    cases hu : join rest with
    | error e => rw [hu] at h; cases h
    | ok u => rw [hu] at h; cases h; exact ⟨t, u, rfl, rfl, rfl⟩

namespace Node

variable {fs : FileSystem} {context : RenderContext} {b : Branch} {metadata : Value} {t : Text}

/-- The kind of a node that is a branch, whatever its place for children holds. -/
def branch? : Node → Option Branch
  | leaf _ => none
  | branch b _ _ => some b
  | misfilled b _ _ => some b

/-- The RTF of a branch is what stands around it, around that of its children. -/
theorem exists_of_branch_rule {children : Text}
    (h : (b.rule context children).result = .ok (.text t)) :
    ∃ e, Branch.Encloses context b e ∧ t = e.around children := by
  obtain ⟨e, he, hr⟩ := Outcome.result_bind_eq_ok.mp h
  cases hr
  exact ⟨e, Branch.encloses_of_enclosure he, rfl⟩

/-- A branch that has RTF, and the one enclosure it has. -/
theorem exists_enclosure_of_render {children : List Node}
    (h : ((branch b children metadata).render fs context).result = .ok (.text t)) :
    ∃ rs body e, (renderAll fs context children).result = .ok rs ∧ Rendered.join rs = .ok body
      ∧ (b.enclosure context).result = .ok e ∧ t = e.around body := by
  rw [render] at h
  obtain ⟨rs, hrs, hr⟩ := Outcome.result_bind_eq_ok.mp h
  obtain ⟨body, hbody, hr⟩ := Outcome.result_bind_eq_ok.mp hr
  obtain ⟨e, he, hr⟩ := Outcome.result_bind_eq_ok.mp hr
  cases hr
  exact ⟨rs, body, e, hrs, hbody, he, rfl⟩

theorem exists_of_render_branch {children : List Node}
    (h : ((branch b children metadata).render fs context).result = .ok (.text t)) :
    ∃ rs body e, (renderAll fs context children).result = .ok rs ∧ Rendered.join rs = .ok body
      ∧ Branch.Encloses context b e ∧ t = e.around body := by
  obtain ⟨rs, body, e, hrs, hbody, he, ht⟩ := exists_enclosure_of_render h
  exact ⟨rs, body, e, hrs, hbody, Branch.encloses_of_enclosure he, ht⟩

/-- A branch without a list of children has RTF only where there is nothing to render in it. -/
theorem exists_of_render_misfilled {value : Value}
    (h : ((misfilled b value metadata).render fs context).result = .ok (.text t)) :
    ∃ e, Branch.Encloses context b e ∧ t = e.around [] := by
  rw [render] at h
  split at h
  · cases h
  · split at h
    · exact exists_of_branch_rule h
    · cases h

/-- A property of texts that fragments of leaves have and that concatenation and enclosures keep. -/
structure IsKept (context : RenderContext) (P : Text → Prop) : Prop where
  nil : P []
  append {s t : Text} (hs : P s) (ht : P t) : P (s ++ t)
  leaf {t : Text} (h : Leaf.IsFragment context t) : P t
  around {b : Branch} {e : Enclosure} (he : Branch.Encloses context b e) {body : Text}
    (hbody : P body) : P (e.around body)

mutual

/-- **A property that is kept holds of the RTF of every tree.** -/
theorem IsKept.render {P : Text → Prop} (hP : IsKept context P) (n : Node) {t : Text}
    (h : (n.render fs context).result = .ok (.text t)) : P t := by
  match n with
  | .leaf l => exact hP.leaf (Leaf.isFragment_of_rule h)
  | .branch b children metadata =>
    obtain ⟨rs, body, e, hrs, hbody, he, rfl⟩ := exists_of_render_branch h
    exact hP.around he (hP.renderAll children hrs hbody)
  | .misfilled b value metadata =>
    obtain ⟨e, he, rfl⟩ := exists_of_render_misfilled h
    exact hP.around he hP.nil

theorem IsKept.renderAll {P : Text → Prop} (hP : IsKept context P) (children : List Node)
    {rs : List Rendered} {body : Text} (h : (renderAll fs context children).result = .ok rs)
    (hbody : Rendered.join rs = .ok body) : P body := by
  match children with
  | [] =>
    cases h
    cases hbody
    exact hP.nil
  | n :: rest =>
    rw [Node.renderAll] at h
    split at h
    · cases h
      cases hbody
      exact hP.nil
    · obtain ⟨first, hfirst, h⟩ := Outcome.result_bind_eq_ok.mp h
      obtain ⟨others, hothers, h⟩ := Outcome.result_bind_eq_ok.mp h
      cases h
      obtain ⟨t, u, rfl, hu, rfl⟩ := Rendered.join_cons_eq_ok hbody
      exact hP.append (hP.render n hfirst) (hP.renderAll rest hothers hu)

end

/-- The RTF of a branch is what stands around it, around a text with every property that is kept. -/
theorem IsKept.exists_of_render {P : Text → Prop} (hP : IsKept context P) {n : Node}
    (hb : n.branch? = some b) (h : (n.render fs context).result = .ok (.text t)) :
    ∃ body e, P body ∧ Branch.Encloses context b e ∧ t = e.around body := by
  cases n with
  | leaf l => cases hb
  | branch b children metadata =>
    cases hb
    obtain ⟨rs, body, e, hrs, hbody, he, ht⟩ := exists_of_render_branch h
    exact ⟨body, e, hP.renderAll children hrs hbody, he, ht⟩
  | misfilled b value metadata =>
    cases hb
    obtain ⟨e, he, ht⟩ := exists_of_render_misfilled h
    exact ⟨[], e, hP.nil, he, ht⟩

end Node

/-! ## Conversion -/

namespace Conversion

variable {fs : FileSystem}

/-- Rendering with options is rendering in some context. -/
theorem exists_of_render_eq_ok {root : Node} {options : Option Options} {given : Fields}
    {r : Rendered} (h : (render fs root options given).result = .ok r) :
    ∃ context : RenderContext, (root.render fs context).result = .ok r := by
  obtain ⟨-, -, h⟩ := Outcome.result_bind_eq_ok.mp h
  obtain ⟨merged, -, h⟩ := Outcome.result_bind_eq_ok.mp h
  obtain ⟨o, -, h⟩ := Outcome.result_bind_eq_ok.mp h
  obtain ⟨context, -, h⟩ := Outcome.result_bind_eq_ok.mp h
  obtain ⟨rendered, hr, h⟩ := Outcome.result_bind_eq_ok.mp h
  cases h
  exact ⟨context, Walk.render_eq fs context root ▸ hr⟩

end Conversion

end RichText
