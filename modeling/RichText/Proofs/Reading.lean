import RichText.Proofs.Ascii
import RichText.Proofs.Nesting
import RichText.Proofs.Unescape

/-!
# Proofs/Reading — what a part of RTF is read as

    a part of RTF ──decodeFrom──▸ units ──joinPairs──▸ text

A part of RTF is read as some units, whatever follows it, if no escape begins in it and ends behind
it (`ReadsAs`).  Markup is such a part, and its units are of ASCII (`IsMarkup`); escaped text is one,
and its units are those of the text in its mode.  So a row of both stands for a text (`StandsFor`),
which is what the row is read as once pairs are joined, even those that come together where two
parts meet (`StandsFor.unescape`).
-/

namespace RichText.Rtf

/-! ## Parts of RTF -/

/-- **A part of RTF that is read as units**, whatever follows it. -/
def ReadsAs (t units : Text) : Prop :=
  ∀ rest, decodeFrom 0 (t ++ rest) = (decodeFrom 0 rest).map (units ++ ·)

theorem readsAs_nil : ReadsAs [] [] := by
  intro rest
  rw [List.nil_append]
  cases decodeFrom 0 rest <;> rfl

theorem ReadsAs.append {s t u v : Text} (hs : ReadsAs s u) (ht : ReadsAs t v) :
    ReadsAs (s ++ t) (u ++ v) := by
  intro rest
  rw [List.append_assoc, hs, ht]
  cases decodeFrom 0 rest with
  | error e => rfl
  | ok d => exact congrArg Except.ok (List.append_assoc u v d).symm

theorem ReadsAs.decodeFrom_eq {t units : Text} (h : ReadsAs t units) :
    decodeFrom 0 t = .ok units := by
  have hall := h []
  rw [List.append_nil] at hall
  exact hall.trans (congrArg Except.ok (List.append_nil units))

/-- A code point that begins no escape stands for itself. -/
theorem decodeFrom_cons {c : CodePoint} {t : Text} (h : leadingEscape? (c :: t) = none) :
    decodeFrom 0 (c :: t) = (decodeFrom 0 t).map (c :: ·) := by
  rw [decodeFrom, h]

theorem readsAs_singleton {c : CodePoint} (h : c ≠ .char '\\') : ReadsAs [c] [c] :=
  fun _ => decodeFrom_cons (leadingEscape?_cons h)

/-- Behind a backslash, these code points begin no escape. -/
theorem leadingEscape?_backslash_cons {c : CodePoint} (h : c ∉ ("tu\\\x7b\x7d" : Text)) (t : Text) :
    leadingEscape? (.char '\\' :: c :: t) = none := by
  have hgroup : escapeGroup? (.char '\\' :: c :: t) = none := by
    rw [escapeGroup?, if_neg]
    intro hpre
    obtain ⟨u, hu⟩ := List.isPrefixOf_iff_prefix.mp hpre
    have hc : .char 'u' = c := (List.cons.inj (List.cons.inj hu).2).1
    exact h (hc ▸ by decide)
  rw [leadingEscape?.eq_def, hgroup]
  dsimp only
  split
  · next heq => exact (h ((List.cons.inj (List.cons.inj heq).2).1 ▸ by decide)).elim
  · next heq => exact (h ((List.cons.inj (List.cons.inj heq).2).1 ▸ by decide)).elim
  · next heq => exact (h ((List.cons.inj (List.cons.inj heq).2).1 ▸ by decide)).elim
  · next heq => exact (h ((List.cons.inj (List.cons.inj heq).2).1 ▸ by decide)).elim
  · rfl

theorem readsAs_word {c : CodePoint} (h : c ∉ ("tu\\\x7b\x7d" : Text)) :
    ReadsAs [.char '\\', c] [.char '\\', c] := by
  have hc : c ≠ .char '\\' := fun heq => h (heq ▸ by decide)
  intro rest
  refine (decodeFrom_cons (leadingEscape?_backslash_cons h rest)).trans ?_
  rw [decodeFrom_cons (leadingEscape?_cons hc)]
  cases decodeFrom 0 rest <;> rfl

/-- The control word of a tab is read as a tab. -/
theorem readsAs_tab : ReadsAs "\\tab" "\t" := fun _ =>
  decodeFrom_of_leadingEscape? (n := 9) (by decide) (by decide) rfl

/-- Underlining begins as an escape group does. -/
theorem readsAs_underline : ReadsAs "\\ul" "\\ul" := by
  have hrest : ReadsAs [.char 'u', .char 'l'] [.char 'u', .char 'l'] :=
    (readsAs_singleton (by decide)).append (readsAs_singleton (by decide))
  intro rest
  have hnone : leadingEscape? (.char '\\' :: .char 'u' :: .char 'l' :: rest) = none := rfl
  refine (decodeFrom_cons hnone).trans ((congrArg _ (hrest rest)).trans ?_)
  cases decodeFrom 0 rest <;> rfl

/-! ## Markup -/

/-- **Markup**: a part of RTF that is read as units of ASCII. -/
def IsMarkup (t : Text) : Prop := ∃ units, Text.IsAscii units ∧ ReadsAs t units

theorem isMarkup_nil : IsMarkup [] := ⟨[], Text.isAscii_nil, readsAs_nil⟩

theorem IsMarkup.append {s t : Text} (hs : IsMarkup s) (ht : IsMarkup t) : IsMarkup (s ++ t) := by
  obtain ⟨u, hu, hs⟩ := hs
  obtain ⟨v, hv, ht⟩ := ht
  exact ⟨u ++ v, hu.append hv, hs.append ht⟩

/-- A plain text of ASCII is read as itself. -/
theorem IsPlain.isMarkup {t : Text} (h : IsPlain t) (ha : Text.IsAscii t) : IsMarkup t := by
  refine ⟨t, ha, ?_⟩
  clear ha
  induction t with
  | nil => exact readsAs_nil
  | cons c rest ih =>
    obtain ⟨⟨hc, -⟩, hrest⟩ := List.forall_mem_cons.mp h
    exact (readsAs_singleton hc).append (ih hrest)

/-- A check for markup of ASCII: every backslash begins the control word of a tab or of underlining,
or stands in front of a code point that makes no escape of it. -/
def looksLikeMarkup : Text → Bool
  | [] => true
  | .char '\\' :: .char 't' :: .char 'a' :: .char 'b' :: rest => looksLikeMarkup rest
  | .char '\\' :: .char 'u' :: .char 'l' :: rest => looksLikeMarkup rest
  | .char '\\' :: c :: rest =>
    c.isAscii && !("tu\\\x7b\x7d" : Text).contains c && looksLikeMarkup rest
  | c :: rest => c.isAscii && c != .char '\\' && looksLikeMarkup rest

theorem isMarkup_of_looksLikeMarkup {t : Text} (h : looksLikeMarkup t = true) : IsMarkup t := by
  fun_induction looksLikeMarkup t with
  | case1 => exact isMarkup_nil
  | case2 rest ih =>
    have htab : IsMarkup "\\tab" := ⟨"\t", by decide, readsAs_tab⟩
    exact htab.append (ih h)
  | case3 rest ih =>
    have hul : IsMarkup "\\ul" := ⟨"\\ul", by decide, readsAs_underline⟩
    exact hul.append (ih h)
  | case4 c rest htab hul ih =>
    obtain ⟨⟨ha, hc⟩, hrest⟩ : (c.isAscii = true ∧ c ∉ ("tu\\\x7b\x7d" : Text))
        ∧ looksLikeMarkup rest = true := by simpa using h
    have hword : IsMarkup [.char '\\', c] :=
      ⟨[.char '\\', c], List.forall_mem_cons.mpr ⟨rfl, List.forall_mem_singleton.mpr ha⟩,
        readsAs_word hc⟩
    exact hword.append (ih hrest)
  | case5 c rest htab hul hword ih =>
    -- A backslash comes here only as the last code point, and is refused.
    obtain ⟨⟨ha, hc⟩, hrest⟩ : (c.isAscii = true ∧ c ≠ .char '\\')
        ∧ looksLikeMarkup rest = true := by simpa using h
    have hsingle : IsMarkup [c] :=
      ⟨[c], List.forall_mem_singleton.mpr ha, readsAs_singleton hc⟩
    exact hsingle.append (ih hrest)

/-! ## Fields, pictures and enclosures -/

theorem isMarkup_ofInt (i : Int) : IsMarkup (Text.ofInt i) :=
  (isPlain_ofInt i).isMarkup (Text.isAscii_ofInt i)

/-- What stands around what a field shows. -/
theorem isMarkup_fieldAround (address : List UInt8) :
    IsMarkup (fieldAround address).before ∧ IsMarkup (fieldAround address).after := by
  have hopening : IsMarkup "\x7b\\field\x7b\\*\\fldinst\x7bHYPERLINK " :=
    isMarkup_of_looksLikeMarkup rfl
  have hargument : IsMarkup (Url.fieldArgument address) :=
    (isPlain_fieldArgument address).isMarkup (Url.isAscii_fieldArgument address)
  have hshown : IsMarkup "\x7d\x7d\x7b\\fldrslt " := isMarkup_of_looksLikeMarkup rfl
  exact ⟨(hopening.append hargument).append hshown, isMarkup_of_looksLikeMarkup rfl⟩

theorem isMarkup_of_pictureLength {word t : Text} {v : Value} (h : pictureLength word v = .ok t)
    (hword : IsMarkup word) : IsMarkup t := by
  obtain rfl | ⟨i, rfl⟩ := pictureLength_cases h
  · exact isMarkup_nil
  · exact hword.append (isMarkup_ofInt i)

theorem isMarkup_of_picture {image : EmbeddedImage} {width height : Value} {t : Text}
    (h : picture image width height = .ok t) : IsMarkup t := by
  obtain ⟨w, l, hw, hl, rfl⟩ := exists_of_picture_eq_ok h
  have hopening : IsMarkup "\x7b\\*\\shppict\x7b\\pict" := isMarkup_of_looksLikeMarkup rfl
  have hblip : IsMarkup ((Image.blip? image.format).getD []) := by
    obtain hb | hb | hb := blip_cases image.format <;> rw [hb] <;>
      exact isMarkup_of_looksLikeMarkup rfl
  have hwidth : IsMarkup w := isMarkup_of_pictureLength hw (isMarkup_of_looksLikeMarkup rfl)
  have hheight : IsMarkup l := isMarkup_of_pictureLength hl (isMarkup_of_looksLikeMarkup rfl)
  have hdata : IsMarkup (Text.ofBytes image.data) :=
    (isPlain_ofBytes image.data).isMarkup (Text.isAscii_ofBytes image.data)
  exact ((((hopening.append hblip).append hwidth).append hheight).append
    (isMarkup_of_looksLikeMarkup rfl)).append hdata |>.append (isMarkup_of_looksLikeMarkup rfl)

/-- **What stands around the children of a branch is markup**, but for the tag of an element. -/
theorem isMarkup_of_encloses {context : RenderContext} {b : Branch} {e : Enclosure}
    (h : Branch.Encloses context b e) (hb : ∀ tag attributes, b ≠ .element tag attributes) :
    IsMarkup e.before ∧ IsMarkup e.after := by
  cases h with
  | heading level size =>
    have hopening : IsMarkup "\x7b\\fs" := isMarkup_of_looksLikeMarkup rfl
    have hsize : IsMarkup (Text.paddedInt 2 size) :=
      (isPlain_paddedInt 2 size).isMarkup (Text.isAscii_paddedInt 2 size)
    have hbold : IsMarkup "\\b " := isMarkup_of_looksLikeMarkup rfl
    exact ⟨(hopening.append hsize).append hbold, isMarkup_of_looksLikeMarkup rfl⟩
  | link url title address => exact isMarkup_fieldAround address
  | element tag attributes => exact (hb tag attributes rfl).elim
  | _ => exact ⟨isMarkup_of_looksLikeMarkup rfl, isMarkup_of_looksLikeMarkup rfl⟩

/-! ## Rows of both -/

/-- The units that a text is written as in a mode. -/
def unitsOf (mode : UnicodeMode) (t : Text) : Text :=
  t.flatMap fun c => (escapeUnits mode c).map CodePoint.ofCode

theorem unitsOf_append (mode : UnicodeMode) (s t : Text) :
    unitsOf mode (s ++ t) = unitsOf mode s ++ unitsOf mode t := List.flatMap_append

/-- Joining gives back a text that was written in units, with its own pairs joined. -/
theorem joinPairs_unitsOf (mode : UnicodeMode) (t : Text) :
    (unitsOf mode t).joinPairs = t.joinPairs := by
  cases mode with
  | utf16 => exact Text.joinPairs_units t
  | codepoint =>
    have hself : unitsOf .codepoint t = t := by
      simp only [unitsOf, escapeUnits, List.map_cons, List.map_nil, CodePoint.ofCode_code,
        List.flatMap_singleton']
    rw [hself]

/-- Text of ASCII is written as itself. -/
theorem unitsOf_of_isAscii (mode : UnicodeMode) {t : Text} (h : Text.IsAscii t) :
    unitsOf mode t = t := by
  induction t with
  | nil => rfl
  | cons c rest ih =>
    obtain ⟨hc, hrest⟩ := List.forall_mem_cons.mp h
    rw [unitsOf, List.flatMap_cons, escapeUnits_of_isAscii mode hc]
    exact congrArg (c :: ·) (ih hrest)

/-- **A part of RTF that stands for a text** written in a mode. -/
def StandsFor (mode : UnicodeMode) (t text : Text) : Prop := ReadsAs t (unitsOf mode text)

/-- Escaped text stands for the text. -/
theorem standsFor_escape (mode : UnicodeMode) (t : Text) : StandsFor mode (escape mode t) t := by
  rw [escape_eq_flatMap]
  induction t with
  | nil => exact readsAs_nil
  | cons c rest ih => exact ReadsAs.append (decodeFrom_escapedImage mode c) ih

/-- Markup stands for one text in every mode. -/
theorem IsMarkup.exists_standsFor {t : Text} (h : IsMarkup t) :
    ∃ text, ∀ mode, StandsFor mode t text := by
  obtain ⟨units, ha, hunits⟩ := h
  refine ⟨units, fun mode => ?_⟩
  rwa [StandsFor, unitsOf_of_isAscii mode ha]

theorem StandsFor.append {mode : UnicodeMode} {s t u v : Text} (hs : StandsFor mode s u)
    (ht : StandsFor mode t v) : StandsFor mode (s ++ t) (u ++ v) := by
  rw [StandsFor, unitsOf_append]
  exact ReadsAs.append hs ht

/-- **RTF that stands for a text is read as the text**, in either mode. -/
theorem StandsFor.unescape {mode : UnicodeMode} {t text : Text} (h : StandsFor mode t text) :
    unescape t = .ok text.joinPairs := by
  rw [Rtf.unescape, h.decodeFrom_eq, ← joinPairs_unitsOf mode text]
  rfl

end RichText.Rtf
