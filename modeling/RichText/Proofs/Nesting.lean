import RichText.Proofs.Escape
import RichText.Proofs.Fragment
import RichText.Rtf.Nesting

/-!
# Proofs/Nesting — the groups of a rendered tree are closed

    before ── n groups open ──▸ body ── balanced ──▸ after ── n groups closed ──▸

A scan of a balanced text comes back to where it began, however many groups are open there
(`IsBalanced.scan`), so an enclosure that closes what it opens keeps balance
(`IsBalanced.around`).  Escaped text is balanced, and so are a field and a picture: the only free
texts in them have no markup at all (`IsPlain`).
-/

namespace RichText

namespace Rtf

/-! ## Scans -/

namespace Nesting

/-- A nesting inside `d` more groups. -/
def within (d : Nat) (n : Nesting) : Nesting := ⟨n.depth + d, n.isEscaped⟩

theorem next?_within {n m : Nesting} {c : CodePoint} (h : n.next? c = some m) (d : Nat) :
    (n.within d).next? c = some (m.within d) := by
  obtain ⟨depth, isEscaped⟩ := n
  simp only [next?, within] at h ⊢
  split at h
  · cases h; simp_all
  · split at h
    · cases h; simp_all
    · split at h
      · cases h; simp_all; omega
      · split at h
        · cases depth with
          | zero => cases h
          | succ k => cases h; simp_all [Nat.succ_add]
        · cases h; simp_all

/-- **A scan does not see the groups around it.** -/
theorem scan_within {n m : Nesting} {t : Text} (h : n.scan t = some m) (d : Nat) :
    (n.within d).scan t = some (m.within d) := by
  induction t generalizing n with
  | nil => cases h; rfl
  | cons c rest ih =>
    obtain ⟨k, hk, h⟩ := Option.bind_eq_some_iff.mp h
    rw [scan, next?_within hk d]
    exact ih h

/-- What begins a text that can be scanned can be scanned. -/
theorem exists_scan_of_prefix {n m : Nesting} {s t : Text} (hs : s <+: t)
    (h : n.scan t = some m) : ∃ k, n.scan s = some k := by
  obtain ⟨rest, rfl⟩ := hs
  rw [scan_append] at h
  obtain ⟨k, hk, -⟩ := Option.bind_eq_some_iff.mp h
  exact ⟨k, hk⟩

end Nesting

/-- A balanced text leaves a scan where it was. -/
theorem IsBalanced.scan {t : Text} (h : IsBalanced t) (d : Nat) :
    Nesting.scan ⟨d, false⟩ t = some ⟨d, false⟩ := by
  have := Nesting.scan_within h d
  rwa [Nesting.within, Nat.zero_add] at this

/-- A scan goes on behind a balanced text as if it were not there. -/
theorem IsBalanced.scan_between {n : Nesting} {m : Option Nesting} {d : Nat}
    {before t after : Text} (ht : IsBalanced t) (hbefore : n.scan before = some ⟨d, false⟩)
    (hafter : Nesting.scan ⟨d, false⟩ after = m) : n.scan (before ++ t ++ after) = m := by
  rw [Nesting.scan_append, Nesting.scan_append, hbefore, Option.bind_some, ht.scan d]
  exact hafter

/-- **An enclosure that closes what it opens keeps balance.** -/
theorem IsBalanced.around {e : Enclosure} {d : Nat} {body : Text} (hbody : IsBalanced body)
    (hbefore : Nesting.scan {} e.before = some ⟨d, false⟩)
    (hafter : Nesting.scan ⟨d, false⟩ e.after = some {}) : IsBalanced (e.around body) :=
  hbody.scan_between hbefore hafter

theorem isBalanced_flatMap {α : Type} {f : α → Text} {l : List α}
    (h : ∀ a ∈ l, IsBalanced (f a)) : IsBalanced (l.flatMap f) := by
  induction l with
  | nil => exact isBalanced_nil
  | cons a rest ih =>
    rw [List.flatMap_cons]
    exact (h a List.mem_cons_self).append (ih fun b hb => h b (List.mem_cons_of_mem a hb))

/-- **A balanced text in braces is one group.** -/
theorem isGroup_braces {body : Text} (h : IsBalanced body) :
    IsGroup (.char '\x7b' :: body ++ "\x7d") := by
  have hall : IsBalanced ("\x7b" ++ body ++ "\x7d") := h.scan_between (d := 1) rfl rfl
  refine ⟨hall, rfl, fun s hs hne hne' => ?_⟩
  -- A prefix that is neither empty nor everything is the opening brace and a prefix of the body.
  obtain heq | hs := List.prefix_concat_iff.mp hs
  · exact absurd heq hne'
  · cases s with
    | nil => exact absurd rfl hne
    | cons c rest =>
      obtain ⟨rfl, hrest⟩ := List.cons_prefix_cons.mp hs
      obtain ⟨k, hk⟩ := Nesting.exists_scan_of_prefix hrest h
      exact ⟨k.within 1, Nesting.scan_within hk 1, Nat.succ_pos _⟩

/-! ## Texts without markup -/

/-- A text without markup: no code point of it escapes, opens or closes anything. -/
def IsPlain (t : Text) : Prop := ∀ c ∈ t, c ≠ .char '\\' ∧ c ≠ .char '\x7b' ∧ c ≠ .char '\x7d'

instance (t : Text) : Decidable (IsPlain t) := inferInstanceAs (Decidable (∀ c ∈ t, _))

theorem IsPlain.isBalanced {t : Text} (h : IsPlain t) : IsBalanced t := by
  induction t with
  | nil => exact isBalanced_nil
  | cons c rest ih =>
    obtain ⟨hescape, hopen, hclose⟩ := h c List.mem_cons_self
    have hc : Nesting.next? {} c = some {} := by
      simp [Nesting.next?, CodePoint.is, hescape, hopen, hclose]
    rw [IsBalanced, Nesting.scan, hc]
    exact ih fun d hd => h d (List.mem_cons_of_mem c hd)

theorem IsPlain.append {s t : Text} (hs : IsPlain s) (ht : IsPlain t) : IsPlain (s ++ t) :=
  fun c hc => (List.mem_append.mp hc).elim (hs c) (ht c)

theorem isPlain_flatMap {α : Type} {f : α → Text} {l : List α} (h : ∀ a ∈ l, IsPlain (f a)) :
    IsPlain (l.flatMap f) := by
  intro c hc
  obtain ⟨a, ha, hc⟩ := List.mem_flatMap.mp hc
  exact h a ha c hc

/-- Numerals are plain. -/
theorem isPlain_of_numeral {t : Text} (h : ∀ c ∈ t, c = .char '-' ∨ c.isDigit = true) :
    IsPlain t := by
  intro c hc
  have hd := h c hc
  refine ⟨?_, ?_, ?_⟩ <;> rintro rfl <;> exact absurd hd (by decide)

theorem isPlain_padded (width n : Nat) : IsPlain (Text.padded width n) :=
  isPlain_of_numeral fun _ hc => Or.inr (Text.isDigit_of_mem_padded hc)

theorem isPlain_ofInt (i : Int) : IsPlain (Text.ofInt i) :=
  isPlain_of_numeral fun _ => Text.mem_ofInt

theorem isPlain_paddedInt (width : Nat) (i : Int) : IsPlain (Text.paddedInt width i) :=
  isPlain_of_numeral fun _ => Text.mem_paddedInt

/-- Bytes in hexadecimal. -/
theorem isPlain_ofBytes (bytes : List UInt8) : IsPlain (Text.ofBytes bytes) := by
  have key : ∀ n : Fin 256, IsPlain (Text.paddedHex 2 n) := by decide +kernel
  exact isPlain_flatMap fun b _ => key b.toFin

/-- The argument of a field. -/
theorem isPlain_fieldArgument (bytes : List UInt8) : IsPlain (Url.fieldArgument bytes) := by
  have key : ∀ n : Fin 256, IsPlain (Url.quoteByte (UInt8.ofFin n)) := by decide +kernel
  have hbytes : IsPlain (Url.quoteBytes bytes) := isPlain_flatMap fun b _ => key b.toFin
  exact (IsPlain.append (s := "\"") (by decide) hbytes).append (by decide)

/-! ## Fragments -/

/-- Every escape is a group of its own. -/
theorem isBalanced_escapedImage (mode : UnicodeMode) (c : CodePoint) :
    IsBalanced (escapedImage mode c) := by
  rcases escapedImage_cases mode c with
    ⟨-, h⟩ | ⟨-, h⟩ | ⟨-, h⟩ | ⟨-, h⟩ | ⟨⟨hescape, hopen, hclose, -⟩, h⟩ <;> rw [h]
  · rfl
  · rfl
  · rfl
  · rfl
  · split
    · exact IsPlain.isBalanced (List.forall_mem_singleton.mpr ⟨hescape, hopen, hclose⟩)
    · rw [escapeCode_eq_flatMap]
      refine isBalanced_flatMap fun n _ => ?_
      exact (isPlain_padded 6 n).isBalanced.scan_between (d := 1) rfl rfl

/-- **Escaped text is balanced**, whatever stands in it. -/
theorem isBalanced_escape (mode : UnicodeMode) (t : Text) : IsBalanced (escape mode t) := by
  rw [escape_eq_flatMap]
  exact isBalanced_flatMap fun c _ => isBalanced_escapedImage mode c

theorem IsBalanced.fieldAround {body : Text} (h : IsBalanced body) (address : List UInt8) :
    IsBalanced ((fieldAround address).around body) :=
  h.around (d := 2) ((isPlain_fieldArgument address).isBalanced.scan_between (d := 3) rfl rfl) rfl

theorem isBalanced_of_pictureLength {word t : Text} {v : Value}
    (h : pictureLength word v = .ok t) (hword : IsBalanced word) : IsBalanced t := by
  obtain rfl | ⟨i, rfl⟩ := pictureLength_cases h
  · exact isBalanced_nil
  · exact hword.append (isPlain_ofInt i).isBalanced

theorem isBalanced_of_picture {image : EmbeddedImage} {width height : Value} {t : Text}
    (h : picture image width height = .ok t) : IsBalanced t := by
  obtain ⟨w, l, hw, hl, rfl⟩ := exists_of_picture_eq_ok h
  have hblip : IsBalanced ((Image.blip? image.format).getD []) := by
    obtain hb | hb | hb := blip_cases image.format <;> rw [hb] <;> rfl
  have hdata : IsBalanced (" " ++ Text.ofBytes image.data) :=
    IsBalanced.append rfl (isPlain_ofBytes image.data).isBalanced
  have hbody := ((hblip.append (isBalanced_of_pictureLength hw rfl)).append
    (isBalanced_of_pictureLength hl rfl)).append hdata
  have hall : IsBalanced ("\x7b\\*\\shppict\x7b\\pict"
      ++ ((Image.blip? image.format).getD [] ++ w ++ l ++ (" " ++ Text.ofBytes image.data))
      ++ "\x7d\x7d") := hbody.scan_between (d := 2) rfl rfl
  simpa only [List.append_assoc] using hall

end Rtf

open Rtf

variable {context : RenderContext}

theorem Leaf.IsFragment.isBalanced {t : Text} (h : IsFragment context t) : IsBalanced t := by
  cases h with
  | escaped s => exact isBalanced_escape _ s
  | link address s => exact (isBalanced_escape _ s).fieldAround address
  | picture h => exact isBalanced_of_picture h

theorem Branch.Encloses.isBalanced {b : Branch} {e : Enclosure} (he : Encloses context b e)
    {body : Text} (h : IsBalanced body) : IsBalanced (e.around body) := by
  cases he with
  | document => exact h.around (d := 1) rfl rfl
  | heading level size =>
    have hsize := (isPlain_paddedInt 2 size).isBalanced
    exact h.around (d := 1) (hsize.scan_between (d := 1) rfl rfl) rfl
  | paragraph => exact h.around (d := 0) rfl rfl
  | bulletList => exact h.around (d := 1) rfl rfl
  | listItem => exact h.around (d := 0) rfl rfl
  | strong => exact h.around (d := 0) rfl rfl
  | emphasis => exact h.around (d := 0) rfl rfl
  | inlineCode => exact h.around (d := 0) rfl rfl
  | link url title address => exact h.fieldAround address
  | element tag attributes => exact h.around (d := 0) (isBalanced_escape _ _) rfl

/-- **Balance is kept** by everything that RTF is made with. -/
theorem isKept_isBalanced : Node.IsKept context IsBalanced :=
  ⟨isBalanced_nil, IsBalanced.append, Leaf.IsFragment.isBalanced, Branch.Encloses.isBalanced⟩

/-- The RTF of a document is one group. -/
theorem Node.isGroup_of_render {fs : FileSystem} {n : Node} {t : Text}
    (hb : n.branch? = some .document) (h : (n.render fs context).result = .ok (.text t)) :
    IsGroup t := by
  obtain ⟨body, e, hbody, he, rfl⟩ := isKept_isBalanced.exists_of_render hb h
  cases he
  exact isGroup_braces (IsBalanced.append (s := "\\rtf1\\ansi\\fs24") rfl hbody)

namespace Conversion

/-- **Rendered text is balanced, and a document is one group.** -/
theorem render_isBalanced {fs : FileSystem} {root : Node} {options : Option Options}
    {given : Fields} {t : Text} (h : (render fs root options given).result = .ok (.text t)) :
    IsBalanced t ∧ (root.branch? = some .document → IsGroup t) := by
  obtain ⟨context, hr⟩ := exists_of_render_eq_ok h
  exact ⟨isKept_isBalanced.render root hr, fun hb => Node.isGroup_of_render hb hr⟩

/-- A heading with a brace of its own, and a paragraph that ends in a backslash. -/
theorem render_isGroup_sample :
    let root : Node := .branch .document
      [.branch (.heading (.int 1)) [.leaf (.text (.text "a\x7bb") .null)] .null,
        .branch .paragraph [.leaf (.text (.text "c\\") .null)] .null] .null
    ∃ t, (render ⟨.directory [], []⟩ root none []).result = .ok (.text t) ∧ IsGroup t := by
  intro root
  have h : (render ⟨.directory [], []⟩ root none []).result = .ok (.text
      ("\x7b\\rtf1\\ansi\\fs24\x7b\\fs48\\b a\\\x7bb\\b\x7d\\line\\line "
        ++ "c\\\\\\line\\line \x7d")) := by
    simp only [render, renderWith, Walk.render_eq]
    rfl
  exact ⟨_, h, (render_isBalanced h).2 rfl⟩

end Conversion

end RichText
