import RichText.Proofs.Calm
import RichText.Render.Passage

/-!
# Proofs/Style — what the RTF of a tree does to the style of text

    scanner ──before──▸ what the branch shows, in its groups ──children──▸ ──after──▸ scanner

What stands before the children of a branch switches on what the branch shows, and what stands behind
them switches it off or leaves the groups of the branch (`surrounds_of_encloses`).  So a reader comes
out of the RTF of a node with the style it came with, less what the node takes back
(`Node.scan_render`).
-/

namespace RichText

namespace Rtf

/-! ## Reading a text -/

namespace Style

theorem isWithin_refl (s : Style) : s.isWithin s = true := isWithin_iff.mpr fun _ => id

theorem isWithin_trans {s t u : Style} (hst : s.isWithin t = true) (htu : t.isWithin u = true) :
    s.isWithin u = true :=
  isWithin_iff.mpr fun a ha => isWithin_iff.mp htu a (isWithin_iff.mp hst a ha)

theorem isWithin_including (s : Style) (on : Attribute → Bool) :
    s.isWithin (s.including on) = true :=
  isWithin_iff.mpr fun a ha => by rw [has_including, ha, Bool.true_or]

theorem excluding_isWithin (s : Style) (off : Attribute → Bool) :
    (s.excluding off).isWithin s = true :=
  isWithin_iff.mpr fun a ha => by
    rw [has_excluding, Bool.and_eq_true] at ha
    exact ha.1

/-- Nothing changes where there is nothing to switch on. -/
theorem including_eq_self (s : Style) {on : Attribute → Bool} (h : ∀ a, on a = false) :
    s.including on = s := ext_has fun a => by rw [has_including, h, Bool.or_false]

/-- Nothing changes where there is nothing to switch off. -/
theorem excluding_eq_self (s : Style) {off : Attribute → Bool} (h : ∀ a, off a = false) :
    s.excluding off = s := ext_has fun a => by rw [has_excluding, h, Bool.not_false, Bool.and_true]

end Style

open Style Scanner

/-- **What reading a text does**: the reader behind it, and a style that no style on the way goes
beyond. -/
structure Reads (x : Scanner) (u : Text) (r : StyleReader) (m : Style) : Prop where
  isQuiet : (x.scan u).IsQuiet
  reader_eq : (x.scan u).reader = r
  within : ∀ s ∈ x.styles u, s.isWithin m = true

variable {x : Scanner} {u v : Text} {r r' : StyleReader} {m : Style}

theorem Reads.append (hu : Reads x u r m) (hv : Reads (x.scan u) v r' m) :
    Reads x (u ++ v) r' m where
  isQuiet := by rw [scan_append]; exact hv.isQuiet
  reader_eq := by rw [scan_append]; exact hv.reader_eq
  within s hs := (mem_styles_append.mp hs).elim (hu.within s) (hv.within s)

theorem Reads.mono {m' : Style} (h : Reads x u r m) (hm : m.isWithin m' = true) :
    Reads x u r m' := ⟨h.isQuiet, h.reader_eq, fun s hs => isWithin_trans (h.within s hs) hm⟩

/-- The style behind the text is not beyond the bound either. -/
theorem Reads.style_isWithin (h : Reads x u r m) : (x.scan u).style.isWithin m = true :=
  h.within _ (style_scan_mem_styles (List.prefix_refl u))

theorem IsCalm.reads (h : IsCalm u) (hx : x.IsQuiet) (hm : x.style.isWithin m = true) :
    Reads x u x.reader m :=
  ⟨h.isQuiet hx, h.reader_eq hx, fun _ hs => h.style_eq hx hs ▸ hm⟩

/-- Calm text behind a text that has been read. -/
theorem Reads.calm (hu : Reads x u r m) (hv : IsCalm v) : Reads x (u ++ v) r m :=
  hu.append (hu.reader_eq ▸ hv.reads hu.isQuiet hu.style_isWithin)

/-- A group begins: the style is kept for its end. -/
theorem reads_open (hx : x.IsQuiet) (hm : x.style.isWithin m = true) :
    Reads x [.char '\x7b'] ⟨x.style, x.style :: x.reader.outer⟩ m := by
  have hnext : x.next (.char '\x7b') = ⟨⟨x.style, x.style :: x.reader.outer⟩, .nothing⟩ :=
    next_of_isQuiet hx rfl rfl rfl rfl
  refine ⟨?_, ?_, List.forall_mem_cons.mpr ⟨hm, List.forall_mem_singleton.mpr ?_⟩⟩
  · rw [scan_cons, hnext]; trivial
  · rw [scan_cons, hnext]; rfl
  · rw [hnext]; exact hm

/-- A group ends: the style kept for its end is back. -/
theorem reads_close {s : Style} {outer : List Style} (hx : x.IsQuiet)
    (houter : x.reader.outer = s :: outer) (hm : x.style.isWithin m = true)
    (hs : s.isWithin m = true) : Reads x [.char '\x7d'] ⟨s, outer⟩ m := by
  have hclosing : x.reader.next .closing = ⟨s, outer⟩ := by rw [StyleReader.next, houter]
  have hnext : x.next (.char '\x7d') = ⟨⟨s, outer⟩, .nothing⟩ :=
    hclosing ▸ next_of_isQuiet hx rfl rfl rfl rfl
  refine ⟨?_, ?_, List.forall_mem_cons.mpr ⟨hm, List.forall_mem_singleton.mpr ?_⟩⟩
  · rw [scan_cons, hnext]; trivial
  · rw [scan_cons, hnext]; rfl
  · rw [hnext]; exact hs

/-- A backslash ends whatever is pending. -/
theorem reads_backslash (hx : x.IsQuiet) (hm : x.style.isWithin m = true)
    (h : Reads ⟨x.reader, .backslash⟩ u r m) : Reads x (.char '\\' :: u) r m := by
  have hnext : x.next (.char '\\') = ⟨x.reader, .backslash⟩ := next_of_isQuiet hx rfl rfl rfl rfl
  refine ⟨?_, ?_, List.forall_mem_cons.mpr ⟨hm, ?_⟩⟩
  · rw [scan_cons, hnext]; exact h.isQuiet
  · rw [scan_cons, hnext]; exact h.reader_eq
  · rw [hnext]; exact h.within

theorem Reads.backslash (hu : Reads x u r m) (hv : Reads ⟨r, .backslash⟩ v r' m) :
    Reads x (u ++ .char '\\' :: v) r' m :=
  hu.append (reads_backslash hu.isQuiet hu.style_isWithin (hu.reader_eq.symm ▸ hv))

theorem Reads.opened (hu : Reads x u r m) :
    Reads x (u ++ [.char '\x7b']) ⟨r.style, r.style :: r.outer⟩ m := by
  have h := reads_open hu.isQuiet hu.style_isWithin
  rw [style, hu.reader_eq] at h
  exact hu.append h

/-! ## Leaves -/

theorem isCalm_lineBreak : IsCalm lineBreak :=
  (isCalm_word "line" (by decide)).append (IsPlain.isCalm (by decide))

theorem isCalm_paragraphBreak : IsCalm paragraphBreak :=
  (isCalm_word "line" (by decide)).append isCalm_lineBreak

theorem isCalm_of_pictureLength (name : Text) {t : Text} {v : Value}
    (h : pictureLength (.char '\\' :: name) v = .ok t) (hname : IsQuietName name) : IsCalm t := by
  obtain rfl | ⟨i, rfl⟩ := pictureLength_cases h
  · exact isCalm_nil
  · exact (isCalm_word name hname).append (isPlain_ofInt i).isCalm

/-- **A picture is calm**, whatever its bytes are. -/
theorem isCalm_of_picture {image : EmbeddedImage} {width height : Value} {t : Text}
    (h : picture image width height = .ok t) : IsCalm t := by
  obtain ⟨w, l, hw, hl, rfl⟩ := exists_of_picture_eq_ok h
  have hstar : IsCalm "\\*" := isCalm_symbol (.char '*') rfl
  have hshppict : IsCalm "\\shppict" := isCalm_word "shppict" (by decide)
  have hpict : IsCalm "\\pict" := isCalm_word "pict" (by decide)
  have hblip : IsCalm ((Image.blip? image.format).getD []) := by
    obtain hb | hb | hb := blip_cases image.format <;> rw [hb]
    · exact isCalm_nil
    · exact isCalm_word "pngblip" (by decide)
    · exact isCalm_word "jpegblip" (by decide)
  have hw' : IsCalm w := isCalm_of_pictureLength "picwgoal" hw (by decide)
  have hl' : IsCalm l := isCalm_of_pictureLength "pichgoal" hl (by decide)
  have hdata : IsCalm (" " ++ Text.ofBytes image.data) :=
    IsCalm.append (IsPlain.isCalm (by decide)) (isPlain_ofBytes image.data).isCalm
  have hbody := hpict.append (hblip.append (hw'.append (hl'.append hdata)))
  have hall := (hstar.append (hshppict.append hbody.group)).group
  simp only [List.append_assoc, List.cons_append] at hall ⊢
  exact hall

/-! ## What stands around children -/

/-- **How text around the children of a branch is read**: before them, what the branch shows is switched
on, in groups of the branch; behind them those groups are left, or it is switched off. -/
structure Surrounds (b : Branch) (e : Enclosure) (x : Scanner) (opened : List Style) : Prop where
  before : Reads x e.before ⟨x.style.including b.shows, opened ++ x.reader.outer⟩
    (x.style.including b.shows)
  after {z : Scanner} (hz : z.IsQuiet) (houter : z.reader.outer = opened ++ x.reader.outer)
    (hm : z.style.isWithin (x.style.including b.shows) = true) :
    Reads z e.after ⟨if b.isGroup then x.style else z.style.excluding b.shows, x.reader.outer⟩
      (x.style.including b.shows)

variable {context : RenderContext} {b : Branch} {e : Enclosure}

/-- Calm text around children, outside of groups. -/
theorem surrounds_of_isCalm (hx : x.IsQuiet) (hbefore : IsCalm e.before) (hafter : IsCalm e.after)
    (hshows : ∀ a, b.shows a = false) (hgroup : b.isGroup = false) : Surrounds b e x [] where
  before := by
    rw [including_eq_self _ hshows]
    exact hbefore.reads hx (isWithin_refl _)
  after {z} hz houter hm := by
    rw [hgroup, if_neg Bool.false_ne_true, excluding_eq_self _ hshows]
    have houter' : x.reader.outer = z.reader.outer := houter.symm
    rw [houter']
    exact hafter.reads hz hm

/-- A group around children, with calm text in it and behind it. -/
theorem surrounds_of_group {u v : Text} (hx : x.IsQuiet) (hu : IsCalm u) (hv : IsCalm v)
    (hshows : ∀ a, b.shows a = false) (hgroup : b.isGroup = true) :
    Surrounds b ⟨.char '\x7b' :: u, .char '\x7d' :: v⟩ x [x.style] where
  before := by
    rw [including_eq_self _ hshows]
    exact (reads_open hx (isWithin_refl _)).calm hu
  after {z} hz houter hm := by
    rw [hgroup, if_pos rfl]
    exact (reads_close hz houter hm (isWithin_including _ _)).calm hv

/-- Control words around children, outside of groups. -/
theorem surrounds_of_switches {u v : Text} (hx : x.IsQuiet)
    (hu : ∀ s outer, Reads ⟨⟨s, outer⟩, .backslash⟩ u ⟨s.including b.shows, outer⟩
      (s.including b.shows))
    (hv : ∀ s outer, Reads ⟨⟨s, outer⟩, .backslash⟩ v ⟨s.excluding b.shows, outer⟩ s)
    (hgroup : b.isGroup = false) : Surrounds b ⟨.char '\\' :: u, .char '\\' :: v⟩ x [] where
  before := reads_backslash hx (isWithin_including _ _) (hu _ _)
  after {z} hz houter hm := by
    have houter' : x.reader.outer = z.reader.outer := houter.symm
    rw [hgroup, if_neg Bool.false_ne_true, houter']
    exact (reads_backslash hz (isWithin_refl _) (hv _ _)).mono hm

/-- A heading leaves its group without switching bold off: the brace does. -/
theorem surrounds_heading (level : Value) (size : Int) (hx : x.IsQuiet) :
    Surrounds (.heading level) ⟨"\x7b\\fs" ++ Text.paddedInt 2 size ++ "\\b ",
      "\\b\x7d" ++ paragraphBreak⟩ x [x.style] where
  before := by
    have hfs : IsCalm "\\fs" := isCalm_word "fs" (by decide)
    have hnumber := (isPlain_paddedInt 2 size).isCalm
    have hopen := ((reads_open hx (isWithin_refl _)).calm hfs).calm hnumber
    have hbold : ∀ s outer, Reads ⟨⟨s, outer⟩, .backslash⟩ "b "
        ⟨s.including (Branch.heading level).shows, outer⟩
        (s.including (Branch.heading level).shows) := by
      rintro ⟨_ | _, _ | _, _ | _⟩ outer <;> exact ⟨trivial, rfl, List.all_eq_true.mp rfl⟩
    exact (hopen.mono (isWithin_including _ _)).backslash (hbold _ _)
  after {z} hz houter hm := by
    have hleave : Reads ⟨⟨z.style, x.style :: x.reader.outer⟩, .backslash⟩ "b\x7d"
        ⟨x.style, x.reader.outer⟩ (x.style.including (Branch.heading level).shows) := by
      have hs := isWithin_including x.style (Branch.heading level).shows
      exact ⟨trivial, rfl, List.forall_mem_cons.mpr ⟨hm, List.forall_mem_cons.mpr ⟨hm,
        List.forall_mem_singleton.mpr hs⟩⟩⟩
    have hz' : z.reader = ⟨z.style, x.style :: x.reader.outer⟩ :=
      congrArg (StyleReader.mk z.style) houter
    exact (reads_backslash hz hm (hz' ▸ hleave)).calm isCalm_paragraphBreak

/-- A field is two groups deep where it shows something. -/
theorem surrounds_field (url title : Value) (address : List UInt8) (hx : x.IsQuiet) :
    Surrounds (.link url title) (fieldAround address) x [x.style, x.style] where
  before := by
    have hfield : IsCalm "\\field" := isCalm_word "field" (by decide)
    have hstar : IsCalm "\\*" := isCalm_symbol (.char '*') rfl
    have hfldinst : IsCalm "\\fldinst" := isCalm_word "fldinst" (by decide)
    have hfldrslt : IsCalm "\\fldrslt" := isCalm_word "fldrslt" (by decide)
    have hname : IsCalm "HYPERLINK " := IsPlain.isCalm (by decide)
    have hspace : IsCalm " " := IsPlain.isCalm (by decide)
    have haddress := (hname.append (isPlain_fieldArgument address).isCalm).group
    have hinstruction := hfield.append (hstar.append (hfldinst.append haddress)).group
    have hall := (((reads_open hx (isWithin_refl _)).calm hinstruction).opened.calm hfldrslt).calm
      hspace
    rw [including_eq_self _ fun a => by cases a <;> rfl, fieldAround]
    simp only [List.append_assoc, List.cons_append] at hall ⊢
    exact hall
  after {z} hz houter hm := by
    have hs := isWithin_including x.style (Branch.link url title).shows
    have hinner := reads_close hz houter hm hs
    exact hinner.append (reads_close hinner.isQuiet (congrArg StyleReader.outer hinner.reader_eq)
      hinner.style_isWithin hs)

/-- **What stands around the children of a branch switches what the branch shows**, whatever the kind. -/
theorem surrounds_of_encloses (he : Branch.Encloses context b e) (hx : x.IsQuiet) :
    ∃ opened, Surrounds b e x opened := by
  cases he with
  | document =>
    have hrtf : IsCalm "\\rtf" := isCalm_word "rtf" (by decide)
    have hansi : IsCalm "\\ansi" := isCalm_word "ansi" (by decide)
    have hfs : IsCalm "\\fs" := isCalm_word "fs" (by decide)
    have hone : IsCalm "1" := IsPlain.isCalm (by decide)
    have hsize : IsCalm "24" := IsPlain.isCalm (by decide)
    have hall := hrtf.append (hone.append (hansi.append (hfs.append hsize)))
    exact ⟨_, surrounds_of_group hx hall isCalm_nil (fun a => by cases a <;> rfl) rfl⟩
  | heading level size => exact ⟨_, surrounds_heading level size hx⟩
  | paragraph =>
    exact ⟨_, surrounds_of_isCalm hx isCalm_nil isCalm_paragraphBreak
      (fun a => by cases a <;> rfl) rfl⟩
  | bulletList =>
    have hpar : IsCalm "\\par" := isCalm_word "par" (by decide)
    have hspace : IsCalm " " := IsPlain.isCalm (by decide)
    exact ⟨_, surrounds_of_group hx (hpar.append hspace) isCalm_lineBreak
      (fun a => by cases a <;> rfl) rfl⟩
  | listItem =>
    have hbullet : IsCalm "\\bullet" := isCalm_word "bullet" (by decide)
    have htab : IsCalm "\\tab" := isCalm_word "tab" (by decide)
    have hspace : IsCalm " " := IsPlain.isCalm (by decide)
    exact ⟨_, surrounds_of_isCalm hx (hbullet.append (htab.append hspace)) isCalm_lineBreak
      (fun a => by cases a <;> rfl) rfl⟩
  | strong | emphasis | inlineCode =>
    -- The control words are read in each of the eight styles there are.
    refine ⟨_, surrounds_of_switches hx ?_ ?_ rfl⟩
    all_goals rintro ⟨_ | _, _ | _, _ | _⟩ outer <;> exact ⟨trivial, rfl, List.all_eq_true.mp rfl⟩
  | link url title address => exact ⟨_, surrounds_field url title address hx⟩
  | element tag attributes =>
    exact ⟨_, surrounds_of_isCalm hx (isCalm_escape _ _) isCalm_nil
      (fun a => by cases a <;> rfl) rfl⟩

/-- **The RTF of a leaf leaves the style alone**, and shows nothing with more attributes. -/
theorem reads_of_isFragment {t : Text} (h : Leaf.IsFragment context t) (hx : x.IsQuiet) :
    Reads x t x.reader x.style := by
  cases h with
  | escaped s => exact (isCalm_escape _ s).reads hx (isWithin_refl _)
  | link address s =>
    have hfield := surrounds_field .null .null address hx
    have hbody := hfield.before.calm (isCalm_escape context.unicodeMode s)
    have hall := hbody.append (hfield.after hbody.isQuiet
      (congrArg StyleReader.outer hbody.reader_eq) hbody.style_isWithin)
    rwa [including_eq_self _ fun a => by cases a <;> rfl] at hall
  | picture h => exact (isCalm_of_picture h).reads hx (isWithin_refl _)

end Rtf

open Rtf Rtf.Style Rtf.Scanner

namespace Node

variable {fs : FileSystem} {context : RenderContext}

/-! ## What a node takes back -/

/-- Nothing taken back leaves the reader as it is. -/
theorem reader_excluding (x : Scanner) {off : Attribute → Bool} (h : ∀ a, off a = false) :
    x.reader = ⟨x.style.excluding off, x.reader.outer⟩ := by
  rw [excluding_eq_self _ h]
  rfl

theorem scan_nothing {x : Scanner} (hx : x.IsQuiet) : (x.scan []).IsQuiet
    ∧ (x.scan []).reader = ⟨x.style.excluding fun _ => false, x.reader.outer⟩ :=
  ⟨hx, reader_excluding x fun _ => rfl⟩

/-- Reading what stands behind the children of a branch, which take attributes back. -/
theorem reads_after {b : Branch} {e : Enclosure} (he : Branch.Encloses context b e) {body : Text}
    {off : Attribute → Bool} {x : Scanner} (hx : x.IsQuiet)
    (hbody : ∀ y : Scanner, y.IsQuiet → (y.scan body).IsQuiet
      ∧ (y.scan body).reader = ⟨y.style.excluding off, y.reader.outer⟩) :
    Reads ((x.scan e.before).scan body) e.after
      ⟨x.style.excluding fun a => !b.isGroup && (b.shows a || off a), x.reader.outer⟩
      (x.style.including b.shows) := by
  obtain ⟨opened, hbefore, hafter⟩ := surrounds_of_encloses he hx
  obtain ⟨hquiet, hreader⟩ := hbody _ hbefore.isQuiet
  rw [style, hbefore.reader_eq] at hreader
  have hstyle : ((x.scan e.before).scan body).style = (x.style.including b.shows).excluding off :=
    congrArg StyleReader.style hreader
  have hend := hafter hquiet (congrArg StyleReader.outer hreader)
    (hstyle ▸ excluding_isWithin _ _)
  refine ⟨hend.isQuiet, hend.reader_eq.trans ?_, hend.within⟩
  refine congrArg (StyleReader.mk · _) (ext_has fun a => ?_)
  rw [hstyle]
  cases b.isGroup <;> cases hb : b.shows a <;> simp [hb]

mutual

/-- **A reader comes out of the RTF of a node** with the style it came with, less what the node takes
back. -/
theorem scan_render (n : Node) {t : Text} (h : (n.render fs context).result = .ok (.text t))
    {x : Scanner} (hx : x.IsQuiet) :
    (x.scan t).IsQuiet
      ∧ (x.scan t).reader = ⟨x.style.excluding (n.takesBack ·), x.reader.outer⟩ := by
  match n with
  | .leaf l =>
    have hl := reads_of_isFragment (Leaf.isFragment_of_rule h) hx
    exact ⟨hl.isQuiet, hl.reader_eq.trans (reader_excluding x fun _ => rfl)⟩
  | .branch b children metadata =>
    obtain ⟨rs, body, e, hrs, hbody, he, rfl⟩ := exists_of_render_branch h
    have hend := reads_after he hx fun y hy => scan_renderAll children hrs hbody hy
    rw [Enclosure.around, scan_append, scan_append]
    exact ⟨hend.isQuiet, hend.reader_eq⟩
  | .misfilled b value metadata =>
    obtain ⟨e, he, rfl⟩ := exists_of_render_misfilled h
    have hend := reads_after he hx fun y hy => scan_nothing hy
    simp only [Bool.or_false] at hend
    rw [Enclosure.around, scan_append, scan_append]
    exact ⟨hend.isQuiet, hend.reader_eq⟩

theorem scan_renderAll (children : List Node) {rs : List Rendered} {body : Text}
    (h : (renderAll fs context children).result = .ok rs) (hbody : Rendered.join rs = .ok body)
    {x : Scanner} (hx : x.IsQuiet) :
    (x.scan body).IsQuiet ∧ (x.scan body).reader
      = ⟨x.style.excluding (anyTakesBack · children), x.reader.outer⟩ := by
  match children with
  | [] =>
    cases h
    cases hbody
    exact ⟨hx, reader_excluding x fun _ => rfl⟩
  | n :: rest =>
    rw [renderAll] at h
    split at h
    · next hnull =>
      cases h
      cases hbody
      exact ⟨hx, reader_excluding x fun a => by rw [anyTakesBack, hnull]; rfl⟩
    · next hnull =>
      obtain ⟨first, hfirst, h⟩ := Outcome.result_bind_eq_ok.mp h
      obtain ⟨others, hothers, h⟩ := Outcome.result_bind_eq_ok.mp h
      cases h
      obtain ⟨t, u, rfl, hu, rfl⟩ := Rendered.join_cons_eq_ok hbody
      obtain ⟨hquiet, hreader⟩ := scan_render n hfirst hx
      obtain ⟨hquiet', hreader'⟩ := scan_renderAll rest hothers hu hquiet
      rw [scan_append]
      refine ⟨hquiet', hreader'.trans ?_⟩
      rw [style, hreader]
      refine congrArg (StyleReader.mk · _) (ext_has fun a => ?_)
      simp [anyTakesBack, hnull, Bool.and_assoc]

end

end Node

end RichText
