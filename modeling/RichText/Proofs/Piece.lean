import RichText.Proofs.Nesting
import RichText.Proofs.Walk
import RichText.Proofs.Word
import RichText.Render.Piece

/-!
# Proofs/Piece — the control words of a rendered tree

    tree ──pieces──▸ pieces ──spelling──▸ RTF ──words──▸ control words

The pieces of a tree spell its RTF (`Node.spelling_pieces`), and every control word among them is
ended by the next piece, but for font sizes and tabs (`Node.isSeparated_pieces`).  So the RTF of a
tree has the control words it is written with, unless one of these runs into what follows it
(`Walk.words_render`).
-/

namespace RichText

namespace Rtf

/-! ## Texts -/

/-- Code points that stand for themselves spell the text they are of. -/
theorem spelling_charPieces (t : Text) : spelling (charPieces t) = t := by
  induction t with
  | nil => rfl
  | cons c rest ih => exact congrArg (c :: ·) ih

/-- A plain text opens no control word that something would have to end. -/
theorem isSeparated_charPieces {t : Text} (h : IsPlain t) : isSeparated (charPieces t) = true := by
  induction t with
  | nil => rfl
  | cons c rest ih =>
    obtain ⟨⟨hc, -⟩, hrest⟩ := List.forall_mem_cons.mp h
    have hsound : (Piece.char c).isSound = true := by simpa [Piece.isSound, CodePoint.is] using hc
    rw [charPieces, List.map_cons, isSeparated, hsound]
    exact ih hrest

/-- A field of a width is filled alike for a number and for an integer. -/
theorem paddedInt_natCast (width n : Nat) : Text.paddedInt width n = Text.padded width n := by
  rw [Text.paddedInt, if_neg (by omega), Int.natAbs_natCast]

/-- A field without a width holds the numeral and nothing else. -/
theorem paddedInt_zero (i : Int) : Text.paddedInt 0 i = Text.ofInt i := by
  simp only [Text.paddedInt, Text.ofInt, Text.padded, Text.zeroFilled, Nat.zero_sub,
    List.replicate_zero, List.nil_append]

/-- The group of a code unit fills its number with zeros, as the image of a code point does. -/
theorem spelling_groupPieces (n : Nat) : spelling (groupPieces n) = escapeGroup n := by
  have hspelling : spelling (groupPieces n)
      = "\\ud\x7b\\uc6\\u" ++ Text.paddedInt 6 n ++ "\x7d" := rfl
  rw [hspelling, paddedInt_natCast, escapeGroup]

theorem spelling_flatMap {α : Type} {f : α → List Piece} {g : α → Text} (l : List α)
    (h : ∀ a, spelling (f a) = g a) : spelling (l.flatMap f) = l.flatMap g := by
  induction l with
  | nil => rfl
  | cons a rest ih => rw [List.flatMap_cons, List.flatMap_cons, spelling_append, h, ih]

theorem isSeparated_flatMap {α : Type} {f : α → List Piece} (l : List α)
    (h : ∀ a, isSeparated (f a) = true) : isSeparated (l.flatMap f) = true := by
  induction l with
  | nil => rfl
  | cons a rest ih =>
    rw [List.flatMap_cons]
    exact isSeparated_append (h a) ih

/-- **The pieces of a code point spell its image**, and its control words are ended. -/
theorem codePieces_spec (mode : UnicodeMode) (c : CodePoint) :
    spelling (codePieces mode c) = escapedImage mode c
      ∧ isSeparated (codePieces mode c) = true := by
  rcases escapedImage_cases mode c with
    ⟨rfl, h⟩ | ⟨rfl, h⟩ | ⟨rfl, h⟩ | ⟨rfl, h⟩ | ⟨⟨hescape, hopen, hclose, htab⟩, h⟩
  · exact ⟨h.symm, rfl⟩
  · exact ⟨h.symm, rfl⟩
  · exact ⟨h.symm, rfl⟩
  · exact ⟨h.symm, rfl⟩
  · have hpieces : codePieces mode c = if c.isAscii then [.char c]
        else (escapeUnits mode c).flatMap groupPieces := by
      rw [codePieces.eq_def]
      split
      · contradiction
      · contradiction
      · contradiction
      · contradiction
      · cases mode with
        | utf16 => rfl
        | codepoint => rw [escapeUnits, List.flatMap_singleton]
    rw [h, hpieces]
    split
    · refine ⟨rfl, ?_⟩
      exact isSeparated_charPieces (List.forall_mem_singleton.mpr ⟨hescape, hopen, hclose⟩)
    · rw [escapeCode_eq_flatMap]
      exact ⟨spelling_flatMap _ spelling_groupPieces, isSeparated_flatMap _ fun _ => rfl⟩

/-- **The pieces of a text spell what it is escaped to.** -/
theorem spelling_textPieces (mode : UnicodeMode) (t : Text) :
    spelling (textPieces mode t) = escape mode t := by
  rw [escape_eq_flatMap]
  exact spelling_flatMap t fun c => (codePieces_spec mode c).1

theorem isSeparated_textPieces (mode : UnicodeMode) (t : Text) :
    isSeparated (textPieces mode t) = true :=
  isSeparated_flatMap t fun c => (codePieces_spec mode c).2

/-! ## Links and pictures -/

/-- What is shown of a value is spelled by its pieces, if it is a text. -/
theorem spelling_contentPieces {mode : UnicodeMode} {v : Value} {t : Text}
    (h : content mode v = .ok (.text t)) : spelling (contentPieces mode v) = t := by
  obtain ⟨s, rfl, rfl⟩ := content_eq_text h
  exact spelling_textPieces mode s

theorem isSeparated_contentPieces (mode : UnicodeMode) (v : Value) :
    isSeparated (contentPieces mode v) = true := by
  cases v with
  | text t => exact isSeparated_textPieces mode t
  | _ => rfl

/-- The pieces on both sides of a link spell the field around it. -/
theorem spelling_linkFront {context : RenderContext} {url : Value} {e : Enclosure}
    (h : hyperlink context url = .ok e) :
    spelling (linkFront context url) = e.before ∧ spelling linkBack = e.after := by
  obtain ⟨resolved, hresolved, h⟩ := except_bind_eq_ok.mp h
  obtain ⟨target, htarget, h⟩ := except_bind_eq_ok.mp h
  have hboth : (Url.resolve url context.baseUrl >>= Url.quote) = .ok target :=
    except_bind_eq_ok.mpr ⟨resolved, hresolved, htarget⟩
  cases h
  refine ⟨?_, rfl⟩
  rw [linkFront, hboth]
  dsimp only
  rw [spelling_append, spelling_append, spelling_charPieces, ← List.append_assoc]
  rfl

/-- A quoted address is plain, so that no control word in front of it is left open. -/
theorem isSeparated_linkFront (context : RenderContext) (url : Value) :
    isSeparated (linkFront context url) = true := by
  rw [linkFront]
  split
  · next target htarget =>
    obtain ⟨resolved, -, hquote⟩ := except_bind_eq_ok.mp htarget
    obtain ⟨bytes, rfl⟩ := exists_of_quote_eq_ok hquote
    have hplain : IsPlain ("HYPERLINK " ++ Url.fieldArgument bytes) :=
      IsPlain.append (by decide) (isPlain_fieldArgument bytes)
    exact isSeparated_append (isSeparated_append rfl (isSeparated_charPieces hplain)) rfl
  · rfl

/-- Pieces that can stand behind a control word. -/
def IsTail (ps : List Piece) : Prop := isSeparated ps = true ∧ ps.head?.any Piece.ends = true

/-- A control word goes on with pieces that can stand behind one, and can itself stand there. -/
theorem isTail_word_cons {w : ControlWord} {width : Nat} {ps : List Piece}
    (hw : (Piece.word w width).isSound = true) (h : IsTail ps) : IsTail (.word w width :: ps) := by
  refine ⟨?_, rfl⟩
  rw [isSeparated, hw, Piece.isEndedBy, h.1, h.2]
  rfl

theorem isTail_blipPieces (format : Text) {ps : List Piece} (h : IsTail ps) :
    IsTail (blipPieces format ++ ps) := by
  rw [blipPieces]
  split
  · exact isTail_word_cons rfl h
  · split
    · exact isTail_word_cons rfl h
    · exact h

theorem isTail_lengthPieces {name : Text} (hname : (Piece.word ⟨name, none⟩ 0).isSound = true)
    (v : Value) {ps : List Piece} (h : IsTail ps) : IsTail (lengthPieces name v ++ ps) := by
  rw [lengthPieces]
  split
  · split
    · exact isTail_word_cons hname h
    · exact h
  · exact h

/-- The control words of a picture end one another, and a blank in front of the data ends the last. -/
theorem isSeparated_picturePieces (image : EmbeddedImage) (width height : Value) :
    isSeparated (picturePieces image width height) = true := by
  have hplain : IsPlain (" " ++ Text.ofBytes image.data) :=
    IsPlain.append (by decide) (isPlain_ofBytes image.data)
  have hdata : IsTail (charPieces (" " ++ Text.ofBytes image.data) ++ [.closing, .closing]) :=
    ⟨isSeparated_append (isSeparated_charPieces hplain) rfl, rfl⟩
  have hwidth : (Piece.word ⟨"picwgoal", none⟩ 0).isSound = true := rfl
  have hheight : (Piece.word ⟨"pichgoal", none⟩ 0).isSound = true := rfl
  have htail := isTail_blipPieces image.format
    (isTail_lengthPieces hwidth width (isTail_lengthPieces hheight height hdata))
  have hpict : (Piece.word ⟨"pict", none⟩ 0).isSound = true := rfl
  have hfront : isSeparated
      [.opening, .symbol (.char '*'), .word ⟨"shppict", none⟩ 0, .opening] = true := rfl
  have hall := isSeparated_append hfront (isTail_word_cons hpict htail).1
  rw [picturePieces]
  simpa only [List.append_assoc, List.cons_append, List.nil_append] using hall

theorem spelling_blipPieces (format : Text) :
    spelling (blipPieces format) = (Image.blip? format).getD [] := by
  rw [blipPieces, Image.blip?]
  split
  · rfl
  · split <;> rfl

/-- A size that is not given has no pieces, and one that is given has a control word with its twips. -/
theorem spelling_lengthPieces {name : Text} {v : Value} {t : Text}
    (h : pictureLength (.char '\\' :: name) v = .ok t) : spelling (lengthPieces name v) = t := by
  rw [pictureLength] at h
  rw [lengthPieces]
  split at h
  · next htruthy =>
    obtain ⟨length, hlength, h⟩ := except_bind_eq_ok.mp h
    rw [if_pos htruthy, hlength]
    split at h
    · cases h
      rw [← paddedInt_zero]
      exact List.append_nil _
    · cases h
  · next htruthy =>
    cases h
    rw [if_neg htruthy]
    rfl

/-- **The pieces of a picture spell its group.** -/
theorem spelling_picturePieces {image : EmbeddedImage} {width height : Value} {t : Text}
    (h : picture image width height = .ok t) : spelling (picturePieces image width height) = t := by
  obtain ⟨w, l, hw, hl, rfl⟩ := exists_of_picture_eq_ok h
  rw [picturePieces]
  have hwidth : spelling (lengthPieces "picwgoal" width) = w := spelling_lengthPieces hw
  have hheight : spelling (lengthPieces "pichgoal" height) = l := spelling_lengthPieces hl
  simp only [spelling_append, spelling_blipPieces, spelling_charPieces, hwidth, hheight]
  rw [← List.append_assoc]
  rfl

end Rtf

open Rtf

/-! ## Rules -/

namespace Leaf

variable {fs : FileSystem} {context : RenderContext}

/-- The pieces of an image without a picture spell the link to it. -/
theorem spelling_link {url alt : Value} {t : Text} (h : imageLink context url alt = .ok (.text t)) :
    spelling (linkFront context url ++ contentPieces context.unicodeMode alt ++ linkBack) = t := by
  obtain ⟨shown, hshown, h⟩ := except_bind_eq_ok.mp h
  obtain ⟨e, he, h⟩ := except_bind_eq_ok.mp h
  obtain ⟨hfront, hback⟩ := spelling_linkFront he
  cases h
  rw [spelling_append, spelling_append, hfront, hback, Enclosure.around]
  cases shown with
  | text s => rw [spelling_contentPieces hshown]
  | value v =>
    have hnone : contentPieces context.unicodeMode alt = [] := by
      cases alt with
      | text s => cases hshown
      | _ => rfl
    rw [hnone]
    rfl

/-- An image has a picture if one is loaded, and none if not. -/
theorem embedded?_cases {loader : ImageLoader} {url width height : Value} {found : Option Text}
    (h : (embedded? fs context loader url width height).result = .ok found) :
    (∃ source t, (loader.load fs url).result = .ok (some source) ∧ found = some t
        ∧ picture source width height = .ok t)
      ∨ (found = none ∧ ∀ source, (loader.load fs url).result ≠ .ok (some source)) := by
  rw [embedded?] at h
  split at h
  · next hload =>
    cases h
    refine .inr ⟨rfl, fun source hsource => ?_⟩
    cases hload.symm.trans hsource
  · next source hload =>
    cases hpicture : picture source width height with
    | error e =>
      rw [hpicture] at h
      cases h
    | ok t =>
      rw [hpicture] at h
      cases h
      exact .inl ⟨source, t, hload, rfl, hpicture⟩
  · next cause hload =>
    have hnone : ∀ source, (loader.load fs url).result ≠ .ok (some source) := by
      intro source hsource
      cases hload.symm.trans hsource
    refine .inr ⟨?_, hnone⟩
    split at h
    · cases h
    split at h
    · cases h
    · cases h
    · dsimp only at h
      split at h
      · cases h
      · cases h
        rfl

/-- **The pieces of a leaf spell its RTF.** -/
theorem spelling_pieces {l : Leaf} {t : Text} (h : (l.rule fs context).result = .ok (.text t)) :
    spelling (l.pieces fs context) = t := by
  cases l with
  | text content metadata =>
    rw [rule] at h
    split at h
    · cases h
    · exact spelling_contentPieces h
  | image url alt title width height metadata =>
    rw [rule] at h
    split at h
    · cases h
    rw [pieces]
    cases hloader : context.imageLoader with
    | none =>
      rw [hloader] at h
      exact spelling_link h
    | some loader =>
      rw [hloader] at h
      obtain ⟨found, hfound, h⟩ := Outcome.result_bind_eq_ok.mp h
      dsimp only
      obtain ⟨source, picture, hload, rfl, hpicture⟩ | ⟨rfl, hload⟩ := embedded?_cases hfound
      · cases h
        rw [hload]
        exact spelling_picturePieces hpicture
      · split
        · next source hsource => exact (hload source hsource).elim
        · exact spelling_link h
  | foreign name =>
    cases h
    exact spelling_textPieces _ _
  | stray v => cases h

theorem isSeparated_pieces (l : Leaf) : isSeparated (l.pieces fs context) = true := by
  cases l with
  | text content metadata => exact isSeparated_contentPieces _ content
  | image url alt title width height metadata =>
    have hlink : isSeparated
        (linkFront context url ++ contentPieces context.unicodeMode alt ++ linkBack) = true :=
      isSeparated_append (isSeparated_append (isSeparated_linkFront context url)
        (isSeparated_contentPieces _ alt)) rfl
    rw [pieces]
    split
    · exact hlink
    · split
      · exact isSeparated_picturePieces _ width height
      · exact hlink
  | foreign name => exact isSeparated_textPieces _ _
  | stray v => rfl

end Leaf

namespace Branch

variable {context : RenderContext}

/-- **The pieces around the children of a branch spell what stands around them.** -/
theorem spelling_around {b : Branch} {e : Enclosure} (h : (b.enclosure context).result = .ok e) :
    spelling (b.front context) = e.before ∧ spelling b.back = e.after := by
  cases b with
  | heading level =>
    rw [enclosure] at h
    split at h
    · cases h
    · obtain ⟨size, hsize, h⟩ := except_bind_eq_ok.mp h
      obtain ⟨n, hn, h⟩ := except_bind_eq_ok.mp h
      have hboth : (fontSize level >>= wholePart) = .ok n :=
        except_bind_eq_ok.mpr ⟨size, hsize, hn⟩
      cases h
      refine ⟨?_, rfl⟩
      rw [front, hboth]
      simp only [spelling, Piece.spelling, List.flatMap_cons, List.flatMap_nil, List.append_nil,
        List.append_assoc]
      rfl
  | link url title =>
    rw [enclosure] at h
    split at h
    · cases h
    · exact spelling_linkFront h
  | element tag attributes =>
    cases h
    exact ⟨spelling_textPieces _ _, rfl⟩
  | _ =>
    cases h
    exact ⟨rfl, rfl⟩

theorem isSeparated_around (context : RenderContext) (b : Branch) :
    isSeparated (b.front context) = true ∧ isSeparated b.back = true := by
  cases b with
  | heading level =>
    refine ⟨?_, rfl⟩
    rw [front]
    split <;> rfl
  | link url title => exact ⟨isSeparated_linkFront context url, rfl⟩
  | element tag attributes => exact ⟨isSeparated_textPieces _ _, rfl⟩
  | _ => exact ⟨rfl, rfl⟩

end Branch

/-! ## Trees -/

namespace Node

variable {fs : FileSystem} {context : RenderContext}

/-- The enclosure of a branch without a list of children. -/
theorem exists_enclosure_of_render_misfilled {b : Branch} {value metadata : Value} {t : Text}
    (h : ((misfilled b value metadata).render fs context).result = .ok (.text t)) :
    ∃ e, (b.enclosure context).result = .ok e ∧ t = e.around [] := by
  rw [render] at h
  split at h
  · cases h
  split at h
  · obtain ⟨body, hbody, h⟩ := Outcome.result_bind_eq_ok.mp h
    obtain ⟨e, he, h⟩ := Outcome.result_bind_eq_ok.mp h
    cases hbody
    cases h
    exact ⟨e, he, rfl⟩
  · cases h

mutual

/-- **The pieces of a tree spell its RTF.** -/
theorem spelling_pieces (n : Node) {t : Text} (h : (n.render fs context).result = .ok (.text t)) :
    spelling (n.pieces fs context) = t := by
  match n with
  | .leaf l => exact Leaf.spelling_pieces h
  | .branch b children metadata =>
    obtain ⟨rs, body, e, hrs, hbody, he, rfl⟩ := exists_enclosure_of_render h
    obtain ⟨hfront, hback⟩ := Branch.spelling_around he
    rw [pieces, spelling_append, spelling_append, hfront, hback,
      spelling_allPieces children hrs hbody]
    rfl
  | .misfilled b value metadata =>
    obtain ⟨e, he, rfl⟩ := exists_enclosure_of_render_misfilled h
    obtain ⟨hfront, hback⟩ := Branch.spelling_around he
    rw [pieces, spelling_append, hfront, hback, Enclosure.around, List.append_nil]

/-- The pieces of trees spell what their RTF is joined to. -/
theorem spelling_allPieces (ns : List Node) {rs : List Rendered} {body : Text}
    (h : (renderAll fs context ns).result = .ok rs) (hbody : Rendered.join rs = .ok body) :
    spelling (allPieces fs context ns) = body := by
  match ns with
  | [] =>
    cases h
    cases hbody
    rfl
  | n :: rest =>
    rw [renderAll] at h
    rw [allPieces]
    split at h
    · next hnull =>
      cases h
      cases hbody
      rw [if_pos hnull]
      rfl
    · next hnull =>
      obtain ⟨first, hfirst, h⟩ := Outcome.result_bind_eq_ok.mp h
      obtain ⟨others, hothers, h⟩ := Outcome.result_bind_eq_ok.mp h
      cases h
      obtain ⟨t, u, rfl, hu, rfl⟩ := Rendered.join_cons_eq_ok hbody
      rw [if_neg hnull, spelling_append, spelling_pieces n hfirst,
        spelling_allPieces rest hothers hu]

end

mutual

/-- **Every control word of a tree is ended**, but for font sizes and tabs. -/
theorem isSeparated_pieces (n : Node) : isSeparated (n.pieces fs context) = true := by
  match n with
  | .leaf l => exact l.isSeparated_pieces
  | .branch b children metadata =>
    obtain ⟨hfront, hback⟩ := b.isSeparated_around context
    exact isSeparated_append (isSeparated_append hfront (isSeparated_allPieces children)) hback
  | .misfilled b value metadata =>
    obtain ⟨hfront, hback⟩ := b.isSeparated_around context
    exact isSeparated_append hfront hback

theorem isSeparated_allPieces (ns : List Node) :
    isSeparated (allPieces fs context ns) = true := by
  match ns with
  | [] => rfl
  | n :: rest =>
    rw [allPieces]
    split
    · rfl
    · exact isSeparated_append (isSeparated_pieces n) (isSeparated_allPieces rest)

end

/-- The control words of a rendered tree are those of its pieces, as they are read. -/
theorem words_eq_readBefore {root : Node} {t : Text}
    (h : (root.render fs context).result = .ok (.text t)) :
    words t = readBefore (root.pieces fs context) [] := by
  have hseparated : isSeparated (root.pieces fs context) = true := root.isSeparated_pieces
  have hread := words_spelling hseparated []
  rwa [List.append_nil, root.spelling_pieces h, words_nil, List.append_nil] at hread

end Node

/-! ## Control words -/

namespace Walk

variable {fs : FileSystem} {context : RenderContext} {root : Node} {t : Text}

/-- **The RTF of a tree has the control words that it is written with**, in order and each with its
name and number; only the font size of a document takes the digits that follow it, and the tab of a
text the letters that follow it and then a number.  So what is read is what is written, just where
none of these runs into what follows. -/
theorem words_render (h : (Walk.render fs context root).result = .ok (.text t)) :
    spelling (root.pieces fs context) = t
      ∧ words t = readBefore (root.pieces fs context) []
      ∧ (words t = written (root.pieces fs context)
        ↔ ∀ before p behind, root.pieces fs context = before ++ p :: behind →
          p.runsInto (spelling behind) = false) := by
  rw [Walk.render_eq] at h
  have hwords := Node.words_eq_readBefore h
  refine ⟨root.spelling_pieces h, hwords, ?_⟩
  rw [hwords, readBefore_eq_written_iff]
  simp only [List.append_nil]

/-- A document that begins with a letter, and a tab with a comma behind it. -/
theorem words_render_sample :
    let root : Node := .branch .document
      [.branch .paragraph [.leaf (.text (.text "a\t,") .null)] .null] .null
    ∃ t, (Walk.render ⟨.directory [], []⟩ ⟨.null, .utf16, none, .null⟩ root).result = .ok (.text t)
      ∧ words t = [⟨"rtf", some 1⟩, ⟨"ansi", none⟩, ⟨"fs", some 24⟩, ⟨"tab", none⟩, ⟨"line", none⟩,
        ⟨"line", none⟩] := by
  intro root
  have h : (Walk.render ⟨.directory [], []⟩ ⟨.null, .utf16, none, .null⟩ root).result
      = .ok (.text "\x7b\\rtf1\\ansi\\fs24a\\tab,\\line\\line \x7d") := by
    rw [Walk.render_eq]
    rfl
  refine ⟨_, h, ?_⟩
  rw [(words_render h).2.1]
  rfl

/-- **A digit at the beginning of a document** changes the font size of its header, and **a letter
behind a tab** its name. -/
theorem words_of_digit_and_tab :
    let root : Node := .branch .document
      [.branch .paragraph [.leaf (.text (.text "5\tb") .null)] .null] .null
    ∃ t, (Walk.render ⟨.directory [], []⟩ ⟨.null, .utf16, none, .null⟩ root).result = .ok (.text t)
      ∧ words t = [⟨"rtf", some 1⟩, ⟨"ansi", none⟩, ⟨"fs", some 245⟩, ⟨"tabb", none⟩,
        ⟨"line", none⟩, ⟨"line", none⟩]
      ∧ ⟨"fs", some 24⟩ ∉ words t ∧ ⟨"tab", none⟩ ∉ words t := by
  intro root
  have h : (root.render ⟨.directory [], []⟩ ⟨.null, .utf16, none, .null⟩).result
      = .ok (.text "\x7b\\rtf1\\ansi\\fs245\\tabb\\line\\line \x7d") := rfl
  have hwords : words "\x7b\\rtf1\\ansi\\fs245\\tabb\\line\\line \x7d"
      = [⟨"rtf", some 1⟩, ⟨"ansi", none⟩, ⟨"fs", some 245⟩, ⟨"tabb", none⟩, ⟨"line", none⟩,
        ⟨"line", none⟩] := by
    rw [Node.words_eq_readBefore h]
    rfl
  refine ⟨_, Walk.render_eq _ _ root ▸ h, hwords, ?_, ?_⟩
  · rw [hwords]
    decide
  · rw [hwords]
    decide

end Walk

end RichText
