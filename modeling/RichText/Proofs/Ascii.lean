import RichText.Proofs.Escape
import RichText.Proofs.Fragment

/-!
# Proofs/Ascii — rendered text is ASCII

    text, tag, class name ──escape──▸ decimal escapes
    address ──quote──▸ percent escapes                    all of ASCII, and so is what is around them
    bytes ──hexadecimal──▸ digits

Whatever code points stand in a tree and in its addresses, none above `U+007F` gets into its RTF
(`render_isAscii`).
-/

namespace RichText

namespace Text

/-- A text of ASCII. -/
def IsAscii (t : Text) : Prop := ∀ c ∈ t, c.isAscii = true

instance (t : Text) : Decidable (IsAscii t) := inferInstanceAs (Decidable (∀ c ∈ t, _))

theorem isAscii_nil : IsAscii [] := fun _ h => absurd h List.not_mem_nil

theorem IsAscii.append {s t : Text} (hs : IsAscii s) (ht : IsAscii t) : IsAscii (s ++ t) :=
  fun c hc => (List.mem_append.mp hc).elim (hs c) (ht c)

/-- What is put together of texts of ASCII is of ASCII. -/
theorem isAscii_flatMap {α : Type} {f : α → Text} {l : List α} (h : ∀ a ∈ l, IsAscii (f a)) :
    IsAscii (l.flatMap f) := by
  intro c hc
  obtain ⟨a, ha, hc⟩ := List.mem_flatMap.mp hc
  exact h a ha c hc

/-! ## The bytes of ASCII -/

/-- One byte for every code point. -/
def asciiBytes (t : Text) : List UInt8 := t.map fun c => .ofNat c.code

/-- A code point of ASCII is a byte of its own. -/
theorem utf8?_of_isAscii {c : CodePoint} (h : c.isAscii = true) :
    c.utf8? = some [.ofNat c.code] := by
  have hcode : c.code < 0x80 := of_decide_eq_true h
  cases c with
  | char x => exact congrArg some (if_pos hcode)
  | high i => simp only [CodePoint.code] at hcode; omega
  | low i => simp only [CodePoint.code] at hcode; omega

/-- **The UTF-8 of a text of ASCII** has one byte for every code point. -/
theorem IsAscii.utf8?_eq {t : Text} (h : IsAscii t) : t.utf8? = some t.asciiBytes := by
  induction t with
  | nil => rfl
  | cons c rest ih =>
    obtain ⟨hc, hrest⟩ := List.forall_mem_cons.mp h
    rw [utf8?, utf8?_of_isAscii hc, ih hrest]
    rfl

/-- A text of ASCII has a byte for each code point. -/
theorem IsAscii.toUtf8_eq {t : Text} (h : IsAscii t) : t.toUtf8 = .ok t.asciiBytes := by
  rw [toUtf8, h.utf8?_eq]

/-- The bytes are the numbers of the code points. -/
theorem IsAscii.map_toNat_asciiBytes {t : Text} (h : IsAscii t) :
    t.asciiBytes.map UInt8.toNat = t.map CodePoint.code := by
  rw [asciiBytes, List.map_map]
  refine List.map_congr_left fun c hc => ?_
  have hcode : c.code < 0x80 := of_decide_eq_true (h c hc)
  exact UInt8.toNat_ofNat_of_lt' (by simp only [UInt8.size]; omega)

/-! ## Numbers and bytes -/

/-- Numerals are of ASCII. -/
theorem isAscii_of_numeral {t : Text} (h : ∀ c ∈ t, c = .char '-' ∨ c.isDigit = true) :
    IsAscii t := by
  intro c hc
  rcases h c hc with rfl | hd
  · rfl
  · have hcode := CodePoint.code_of_isDigit hd
    exact decide_eq_true (by omega)

theorem isAscii_padded (width n : Nat) : IsAscii (padded width n) :=
  isAscii_of_numeral fun _ hc => Or.inr (isDigit_of_mem_padded hc)

theorem isAscii_ofInt (i : Int) : IsAscii (ofInt i) := isAscii_of_numeral fun _ => mem_ofInt

theorem isAscii_paddedInt (width : Nat) (i : Int) : IsAscii (paddedInt width i) :=
  isAscii_of_numeral fun _ => mem_paddedInt

/-- Bytes are written as hexadecimal digits. -/
theorem isAscii_ofBytes (bytes : List UInt8) : IsAscii (ofBytes bytes) := by
  have key : ∀ n : Fin 256, IsAscii (paddedHex 2 n) := by decide +kernel
  exact isAscii_flatMap fun b _ => key b.toFin

end Text

open Text

/-- The argument of a field: every byte stays only if it is a mark, a letter or a digit of ASCII. -/
theorem Url.isAscii_fieldArgument (bytes : List UInt8) : IsAscii (fieldArgument bytes) := by
  have key : ∀ n : Fin 256, IsAscii (quoteByte (UInt8.ofFin n)) := by decide +kernel
  have hbytes : IsAscii (quoteBytes bytes) := isAscii_flatMap fun b _ => key b.toFin
  exact (IsAscii.append (s := "\"") (by decide) hbytes).append (by decide)

namespace Rtf

/-! ## Fragments -/

theorem isAscii_escapeGroup (n : Nat) : IsAscii (escapeGroup n) :=
  (IsAscii.append (s := "\\ud\x7b\\uc6\\u") (by decide) (isAscii_padded 6 n)).append (by decide)

/-- The image of a code point is the code point itself only where that is of ASCII. -/
theorem isAscii_escapedImage (mode : UnicodeMode) (c : CodePoint) :
    IsAscii (escapedImage mode c) := by
  rcases escapedImage_cases mode c with ⟨-, h⟩ | ⟨-, h⟩ | ⟨-, h⟩ | ⟨-, h⟩ | ⟨-, h⟩ <;> rw [h]
  · decide
  · decide
  · decide
  · decide
  · split
    · next hc => exact List.forall_mem_singleton.mpr hc
    · rw [escapeCode_eq_flatMap]
      exact isAscii_flatMap fun n _ => isAscii_escapeGroup n

/-- **Escaped text is of ASCII**, whatever stands in it. -/
theorem isAscii_escape (mode : UnicodeMode) (t : Text) : IsAscii (escape mode t) := by
  rw [escape_eq_flatMap]
  exact isAscii_flatMap fun c _ => isAscii_escapedImage mode c

/-- An enclosure of ASCII keeps what it is put around in ASCII. -/
theorem isAscii_around {e : Enclosure} {body : Text} (hbefore : IsAscii e.before)
    (hbody : IsAscii body) (hafter : IsAscii e.after) : IsAscii (e.around body) :=
  (hbefore.append hbody).append hafter

/-- The address of a field is quoted, whatever bytes it has. -/
theorem isAscii_fieldAround {body : Text} (address : List UInt8) (h : IsAscii body) :
    IsAscii ((fieldAround address).around body) := by
  have hbefore : IsAscii (fieldAround address).before :=
    (IsAscii.append (by decide) (Url.isAscii_fieldArgument address)).append (by decide)
  have hafter : IsAscii "\x7d\x7d" := by decide
  exact isAscii_around hbefore h hafter

theorem isAscii_of_pictureLength {word t : Text} {v : Value} (h : pictureLength word v = .ok t)
    (hword : IsAscii word) : IsAscii t := by
  obtain rfl | ⟨i, rfl⟩ := pictureLength_cases h
  · exact isAscii_nil
  · exact hword.append (isAscii_ofInt i)

/-- A picture is of control words, numerals and hexadecimal digits. -/
theorem isAscii_of_picture {image : EmbeddedImage} {width height : Value} {t : Text}
    (h : picture image width height = .ok t) : IsAscii t := by
  obtain ⟨w, l, hw, hl, rfl⟩ := exists_of_picture_eq_ok h
  have hblip : IsAscii ((Image.blip? image.format).getD []) := by
    obtain hb | hb | hb := blip_cases image.format <;> rw [hb] <;> decide
  have hsizes := (IsAscii.append (s := "\x7b\\*\\shppict\x7b\\pict") (by decide) hblip
    |>.append (isAscii_of_pictureLength hw (by decide))).append
    (isAscii_of_pictureLength hl (by decide))
  exact ((hsizes.append (by decide)).append (isAscii_ofBytes image.data)).append (by decide)

end Rtf

open Rtf

variable {context : RenderContext}

theorem Leaf.IsFragment.isAscii {t : Text} (h : IsFragment context t) : IsAscii t := by
  cases h with
  | escaped s => exact isAscii_escape _ s
  | link address s => exact isAscii_fieldAround address (isAscii_escape _ s)
  | picture h => exact isAscii_of_picture h

theorem Branch.Encloses.isAscii {b : Branch} {e : Enclosure} (he : Encloses context b e)
    {body : Text} (h : IsAscii body) : IsAscii (e.around body) := by
  cases he with
  | heading level size =>
    have hafter : IsAscii ("\\b\x7d" ++ paragraphBreak) := by decide
    exact isAscii_around ((IsAscii.append (by decide) (isAscii_paddedInt 2 size)).append
      (by decide)) h hafter
  | link url title address => exact isAscii_fieldAround address h
  | element tag attributes => exact isAscii_around (isAscii_escape _ _) h isAscii_nil
  | _ => exact isAscii_around (by decide) h (by decide)

/-- **Being of ASCII is kept** by everything that RTF is made with. -/
theorem isKept_isAscii : Node.IsKept context IsAscii :=
  ⟨isAscii_nil, IsAscii.append, Leaf.IsFragment.isAscii, Branch.Encloses.isAscii⟩

namespace Conversion

/-- **Rendered text is of ASCII**, with any options and for any tree. -/
theorem render_isAscii {fs : FileSystem} {root : Node} {options : Option Options}
    {given : Fields} {t : Text} (h : (render fs root options given).result = .ok (.text t)) :
    ∀ c ∈ t, c.code < 0x80 := by
  obtain ⟨context, hr⟩ := exists_of_render_eq_ok h
  exact fun c hc => of_decide_eq_true (isKept_isAscii.render root hr c hc)

/-- Text, a tag and an address beyond ASCII, each written in its own way. -/
theorem render_isAscii_sample :
    let root : Node := .branch (.element (.text "é") .null)
      [.branch (.link (.text "ü") .null) [.leaf (.text (.text [.high 0]) .null)] .null] .null
    ∃ t, (render ⟨.directory [], []⟩ root none []).result = .ok (.text t)
      ∧ ∀ c ∈ t, c.code < 0x80 := by
  intro root
  have h : (render ⟨.directory [], []⟩ root none []).result = .ok (.text
      ("(\\ud\x7b\\uc6\\u000233\x7d)\x7b\\field\x7b\\*\\fldinst\x7bHYPERLINK \"%C3%BC\"\x7d\x7d"
        ++ "\x7b\\fldrslt \\ud\x7b\\uc6\\u055296\x7d\x7d\x7d")) := by
    simp only [render, renderWith, Walk.render_eq]
    rfl
  exact ⟨_, h, render_isAscii h⟩

end Conversion

end RichText
