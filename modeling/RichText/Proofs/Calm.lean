import RichText.Proofs.Nesting
import RichText.Rtf.Scanner

/-!
# Proofs/Calm — RTF that leaves the style of text alone

    quiet scanner ──calm text──▸ quiet scanner, the same reader, and never another style in between

A scanner is quiet where nothing is pending that could still become a control word of style, however
the text goes on.  Control words of other names, plain text, and calm text in braces are calm; so
escaped text, fields and pictures are, whatever texts, addresses and bytes they hold.
-/

namespace RichText.Rtf

/-! ## Quiet scanners -/

/-- Nothing pending can become a control word of style. -/
def Pending.IsQuiet : Pending → Prop
  | nothing => True
  | backslash => False
  | word name => ∀ more number (s : Style), s.apply (name ++ more) number = s
  | sign name => ∀ number (s : Style), s.apply name number = s
  | number name _ _ => ∀ number (s : Style), s.apply name number = s

namespace Scanner

/-- A scanner that reads on as if nothing were pending. -/
def IsQuiet (x : Scanner) : Prop := x.pending.IsQuiet

theorem settled_of_isQuiet {x : Scanner} (h : x.IsQuiet) : x.settled = x.reader := by
  obtain ⟨r, pending⟩ := x
  have hword {name : Text} {number : Option Int} (h : r.style.apply name number = r.style) :
      r.next (.word name number) = r := by rw [StyleReader.next, h]
  cases pending with
  | nothing => rfl
  | backslash => rfl
  | word name => exact hword (List.append_nil name ▸ h [] none r.style)
  | sign name => exact hword (h none r.style)
  | number name negative digits => exact hword (h _ r.style)

/-- A code point with which no lexeme goes on. -/
theorem next_of_isQuiet {x : Scanner} {c : CodePoint} (h : x.IsQuiet) (hletter : c.isLetter = false)
    (hdigit : c.isDigit = false) (hminus : c.is '-' = false) (hspace : c.is ' ' = false) :
    x.next c = begin x.reader c := by
  have hs := settled_of_isQuiet h
  obtain ⟨r, pending⟩ := x
  cases pending with
  | nothing => rfl
  | backslash => exact h.elim
  | word name => simp only [next, hletter, hdigit, hminus, hspace, hs]; rfl
  | sign name => simp only [next, hdigit, hs]; rfl
  | number name negative digits => simp only [next, hdigit, hspace, hs]; rfl

/-- Code points of plain text keep a scanner quiet. -/
theorem next_plain {x : Scanner} {c : CodePoint} (h : x.IsQuiet) (hescape : c ≠ .char '\\')
    (hopen : c ≠ .char '\x7b') (hclose : c ≠ .char '\x7d') :
    (x.next c).IsQuiet ∧ (x.next c).reader = x.reader := by
  have hs := settled_of_isQuiet h
  have hbegin (r : StyleReader) : begin r c = ⟨r, .nothing⟩ := by
    simp [begin, CodePoint.is, hescape, hopen, hclose, StyleReader.next]
  obtain ⟨r, pending⟩ := x
  cases pending with
  | nothing => rw [next, hbegin]; exact ⟨trivial, rfl⟩
  | backslash => exact h.elim
  | word name =>
    simp only [next, hs, hbegin]
    split
    · exact ⟨fun more number s => List.append_cons name c more ▸ h (c :: more) number s, rfl⟩
    · have hname (number : Option Int) (s : Style) : s.apply name number = s :=
        List.append_nil name ▸ h [] number s
      split
      · exact ⟨hname, rfl⟩
      · split
        · exact ⟨hname, rfl⟩
        · split <;> exact ⟨trivial, rfl⟩
  | sign name =>
    simp only [next, hs, hbegin]
    split
    · exact ⟨h, rfl⟩
    · exact ⟨trivial, rfl⟩
  | number name negative digits =>
    simp only [next, hs, hbegin]
    split
    · exact ⟨h, rfl⟩
    · split <;> exact ⟨trivial, rfl⟩

/-! ## Styles on the way -/

theorem mem_styles_append {x : Scanner} {u v : Text} {s : Style} :
    s ∈ x.styles (u ++ v) ↔ s ∈ x.styles u ∨ s ∈ (x.scan u).styles v := by
  have hfirst (y : Scanner) : y.style ∈ y.styles v := by cases v <;> exact List.mem_cons_self
  induction u generalizing x with
  | nil =>
    rw [List.nil_append, styles, List.mem_singleton, scan_nil]
    exact ⟨Or.inr, fun h => h.elim (fun he => he ▸ hfirst x) id⟩
  | cons c rest ih =>
    rw [List.cons_append, styles, styles, List.mem_cons, List.mem_cons, scan_cons, or_assoc]
    exact or_congr_right ih

/-- The styles of a text are those behind what begins it. -/
theorem style_scan_mem_styles {x : Scanner} {p u : Text} (h : p <+: u) :
    (x.scan p).style ∈ x.styles u := by
  induction p generalizing x u with
  | nil => cases u <;> exact List.mem_cons_self
  | cons c rest ih =>
    obtain ⟨v, rfl⟩ := h
    exact List.mem_cons_of_mem _ (ih (List.prefix_append rest v))

end Scanner

open Scanner

/-! ## Calm texts -/

/-- **A text that leaves the style alone**, and what is around it as well. -/
structure IsCalm (u : Text) : Prop where
  isQuiet {x : Scanner} (hx : x.IsQuiet) : (x.scan u).IsQuiet
  reader_eq {x : Scanner} (hx : x.IsQuiet) : (x.scan u).reader = x.reader
  style_eq {x : Scanner} (hx : x.IsQuiet) {s : Style} (hs : s ∈ x.styles u) : s = x.style

theorem isCalm_nil : IsCalm [] := ⟨id, fun _ => rfl, fun _ _ hs => List.mem_singleton.mp hs⟩

theorem IsCalm.append {u v : Text} (hu : IsCalm u) (hv : IsCalm v) : IsCalm (u ++ v) where
  isQuiet hx := by rw [scan_append]; exact hv.isQuiet (hu.isQuiet hx)
  reader_eq hx := by rw [scan_append, hv.reader_eq (hu.isQuiet hx), hu.reader_eq hx]
  style_eq {x} hx s hs := by
    rcases mem_styles_append.mp hs with hs | hs
    · exact hu.style_eq hx hs
    · rw [hv.style_eq (hu.isQuiet hx) hs, style, hu.reader_eq hx]
      rfl

theorem isCalm_flatMap {α : Type} {f : α → Text} {l : List α} (h : ∀ a ∈ l, IsCalm (f a)) :
    IsCalm (l.flatMap f) := by
  induction l with
  | nil => exact isCalm_nil
  | cons a rest ih =>
    rw [List.flatMap_cons]
    exact (h a List.mem_cons_self).append (ih fun b hb => h b (List.mem_cons_of_mem a hb))

/-- One code point that keeps scanners quiet and their readers. -/
theorem isCalm_singleton {c : CodePoint}
    (h : ∀ x : Scanner, x.IsQuiet → (x.next c).IsQuiet ∧ (x.next c).reader = x.reader) :
    IsCalm [c] where
  isQuiet hx := (h _ hx).1
  reader_eq hx := (h _ hx).2
  style_eq {x} hx s hs := by
    rcases List.mem_cons.mp hs with rfl | hs
    · rfl
    · rw [List.mem_singleton.mp hs, style, (h x hx).2]
      rfl

/-- **Plain text is calm.** -/
theorem IsPlain.isCalm {t : Text} (h : IsPlain t) : IsCalm t := by
  induction t with
  | nil => exact isCalm_nil
  | cons c rest ih =>
    obtain ⟨hescape, hopen, hclose⟩ := h c List.mem_cons_self
    exact IsCalm.append (u := [c])
      (isCalm_singleton fun x hx => next_plain hx hescape hopen hclose)
      (ih fun d hd => h d (List.mem_cons_of_mem c hd))

/-- **Calm text in a group is calm.** -/
theorem IsCalm.group {body : Text} (h : IsCalm body) :
    IsCalm (.char '\x7b' :: (body ++ [.char '\x7d'])) := by
  -- The group is entered with the reader that holds the style twice, and left with the one before.
  have hopen {x : Scanner} (hx : x.IsQuiet) :
      x.next (.char '\x7b') = ⟨x.reader.next .opening, .nothing⟩ :=
    next_of_isQuiet hx rfl rfl rfl rfl
  have hquiet (x : Scanner) : (⟨x.reader.next .opening, .nothing⟩ : Scanner).IsQuiet := trivial
  have hbody (x : Scanner) : ((⟨x.reader.next .opening, .nothing⟩ : Scanner).scan body).reader
      = x.reader.next .opening := h.reader_eq (hquiet x)
  have hclose (x : Scanner) :
      ((⟨x.reader.next .opening, .nothing⟩ : Scanner).scan body).next (.char '\x7d')
        = ⟨x.reader, .nothing⟩ := by
    rw [next_of_isQuiet (h.isQuiet (hquiet x)) rfl rfl rfl rfl, hbody]
    rfl
  have hall {x : Scanner} (hx : x.IsQuiet) :
      x.scan (.char '\x7b' :: (body ++ [.char '\x7d'])) = ⟨x.reader, .nothing⟩ := by
    rw [scan_cons, scan_append, hopen hx, scan_cons, hclose, scan_nil]
  refine ⟨fun hx => ?_, fun hx => ?_, fun {x} hx s hs => ?_⟩
  · rw [hall hx]; trivial
  · rw [hall hx]
  · rw [styles, hopen hx, List.mem_cons, mem_styles_append] at hs
    rcases hs with rfl | hs | hs
    · rfl
    · exact h.style_eq (hquiet x) hs
    · rw [styles, styles, hclose, List.mem_cons, List.mem_singleton, style, hbody] at hs
      exact hs.elim id id

/-! ## Control words -/

namespace Scanner

theorem scan_letters (r : StyleReader) (name : Text) {u : Text} (h : ∀ c ∈ u, c.isLetter = true) :
    (⟨r, .word name⟩ : Scanner).scan u = ⟨r, .word (name ++ u)⟩
      ∧ ∀ s ∈ (⟨r, .word name⟩ : Scanner).styles u, s = r.style := by
  induction u generalizing name with
  | nil =>
    rw [List.append_nil]
    exact ⟨rfl, fun _ hs => List.mem_singleton.mp hs⟩
  | cons c rest ih =>
    have hnext : (⟨r, .word name⟩ : Scanner).next c = ⟨r, .word (name ++ [c])⟩ :=
      if_pos (h c List.mem_cons_self)
    obtain ⟨hscan, hstyles⟩ := ih (name ++ [c]) fun d hd => h d (List.mem_cons_of_mem c hd)
    rw [scan_cons, styles, hnext, hscan, ← List.append_cons]
    exact ⟨rfl, List.forall_mem_cons.mpr ⟨rfl, hstyles⟩⟩

theorem scan_digits (r : StyleReader) (name digits : Text) {u : Text}
    (h : ∀ c ∈ u, c.isDigit = true) :
    (⟨r, .number name false digits⟩ : Scanner).scan u = ⟨r, .number name false (digits ++ u)⟩
      ∧ ∀ s ∈ (⟨r, .number name false digits⟩ : Scanner).styles u, s = r.style := by
  induction u generalizing digits with
  | nil =>
    rw [List.append_nil]
    exact ⟨rfl, fun _ hs => List.mem_singleton.mp hs⟩
  | cons c rest ih =>
    have hnext : (⟨r, .number name false digits⟩ : Scanner).next c
        = ⟨r, .number name false (digits ++ [c])⟩ := if_pos (h c List.mem_cons_self)
    obtain ⟨hscan, hstyles⟩ := ih (digits ++ [c]) fun d hd => h d (List.mem_cons_of_mem c hd)
    rw [scan_cons, styles, hnext, hscan, ← List.append_cons]
    exact ⟨rfl, List.forall_mem_cons.mpr ⟨rfl, hstyles⟩⟩

/-- A control word is pending behind its letters, whatever it is. -/
theorem scan_word {x : Scanner} (hx : x.IsQuiet) {name : Text}
    (hletters : ∀ c ∈ name, c.isLetter = true) (hne : name ≠ []) :
    x.scan (.char '\\' :: name) = ⟨x.reader, .word name⟩
      ∧ ∀ s ∈ x.styles (.char '\\' :: name), s = x.style := by
  have hbackslash : x.next (.char '\\') = ⟨x.reader, .backslash⟩ :=
    next_of_isQuiet hx rfl rfl rfl rfl
  cases name with
  | nil => exact absurd rfl hne
  | cons c rest =>
    obtain ⟨hc, hrest⟩ := List.forall_mem_cons.mp hletters
    have hfirst : (⟨x.reader, .backslash⟩ : Scanner).next c = ⟨x.reader, .word [c]⟩ := if_pos hc
    obtain ⟨hscan, hstyles⟩ := scan_letters x.reader [c] hrest
    rw [scan_cons, scan_cons, styles, styles, hbackslash, hfirst, hscan]
    exact ⟨rfl, List.forall_mem_cons.mpr ⟨rfl, List.forall_mem_cons.mpr ⟨rfl, hstyles⟩⟩⟩

end Scanner

/-- **A name that is no control word of style**, and does not begin one. -/
def IsQuietName (name : Text) : Prop :=
  (∀ c ∈ name, c.isLetter = true) ∧ ∀ w ∈ [("b" : Text), "i", "ul"], ¬ name <+: w

instance (name : Text) : Decidable (IsQuietName name) := inferInstanceAs (Decidable (_ ∧ _))

theorem IsQuietName.ne_nil {name : Text} (h : IsQuietName name) : name ≠ [] :=
  fun hnil => h.2 "b" List.mem_cons_self (hnil ▸ List.nil_prefix)

/-- No letters behind the name turn it into one of a control word of style. -/
theorem IsQuietName.apply_eq {name : Text} (h : IsQuietName name) (more : Text)
    (number : Option Int) (s : Style) : s.apply (name ++ more) number = s := by
  have hne (w : Text) (hw : w ∈ [("b" : Text), "i", "ul"]) : (name ++ more == w) = false :=
    beq_eq_false_iff_ne.mpr fun heq => h.2 w hw ⟨more, heq⟩
  rw [Style.apply, hne "b" (by decide), hne "i" (by decide), hne "ul" (by decide)]
  rfl

/-- **A control word of another name is calm**, also where text that follows makes its name longer. -/
theorem isCalm_word (name : Text) (h : IsQuietName name) : IsCalm (.char '\\' :: name) where
  isQuiet hx := by rw [(scan_word hx h.1 h.ne_nil).1]; exact h.apply_eq
  reader_eq hx := by rw [(scan_word hx h.1 h.ne_nil).1]
  style_eq hx _ hs := (scan_word hx h.1 h.ne_nil).2 _ hs

/-- A control word with a number: no letter can make its name longer. -/
theorem isCalm_numbered (name : Text) {digits : Text} (hletters : ∀ c ∈ name, c.isLetter = true)
    (hne : name ≠ []) (hname : ∀ number (s : Style), s.apply name number = s)
    (hdigits : ∀ c ∈ digits, c.isDigit = true) (hdigits' : digits ≠ []) :
    IsCalm (.char '\\' :: name ++ digits) := by
  obtain ⟨d, rest, rfl⟩ := List.exists_cons_of_ne_nil hdigits'
  obtain ⟨hd, hrest⟩ := List.forall_mem_cons.mp hdigits
  have hletter : d.isLetter = false := by
    rw [Bool.eq_false_iff]
    intro hl
    have hcode := CodePoint.code_of_isDigit hd
    have := CodePoint.code_of_isLetter hl
    omega
  have hscan {x : Scanner} (hx : x.IsQuiet) :
      x.scan (.char '\\' :: name ++ d :: rest) = ⟨x.reader, .number name false (d :: rest)⟩
        ∧ ∀ s ∈ x.styles (.char '\\' :: name ++ d :: rest), s = x.style := by
    obtain ⟨hword, hstyles⟩ := scan_word hx hletters hne
    obtain ⟨hnumber, hstyles'⟩ := scan_digits x.reader name [d] hrest
    have hfirst : (⟨x.reader, .word name⟩ : Scanner).next d
        = ⟨x.reader, .number name false [d]⟩ := by
      simp only [next, hletter, hd, if_true]
      rfl
    refine ⟨?_, fun s hs => ?_⟩
    · rw [scan_append, hword, scan_cons, hfirst, hnumber]
      rfl
    · rcases mem_styles_append.mp hs with hs | hs
      · exact hstyles s hs
      · rw [hword, styles, hfirst, List.mem_cons] at hs
        exact hs.elim id (hstyles' s)
  exact ⟨fun hx => by rw [(hscan hx).1]; exact hname, fun hx => by rw [(hscan hx).1],
    fun hx _ hs => (hscan hx).2 _ hs⟩

/-- A control symbol: a backslash and no letter behind it. -/
theorem isCalm_symbol (c : CodePoint) (h : c.isLetter = false) : IsCalm [.char '\\', c] := by
  have hscan {x : Scanner} (hx : x.IsQuiet) :
      x.scan [.char '\\', c] = ⟨x.reader, .nothing⟩
        ∧ x.styles [.char '\\', c] = [x.style, x.style, x.style] := by
    have hbackslash : x.next (.char '\\') = ⟨x.reader, .backslash⟩ :=
      next_of_isQuiet hx rfl rfl rfl rfl
    have hsymbol : (⟨x.reader, .backslash⟩ : Scanner).next c = ⟨x.reader, .nothing⟩ := by
      simp only [next, h]
      rfl
    rw [scan_cons, scan_cons, styles, styles, styles, hbackslash, hsymbol]
    exact ⟨rfl, rfl⟩
  refine ⟨fun hx => ?_, fun hx => ?_, fun hx s hs => ?_⟩
  · rw [(hscan hx).1]; trivial
  · rw [(hscan hx).1]
  · rw [(hscan hx).2] at hs
    simpa using hs

/-! ## Escaped text -/

/-- One decimal escape: no letter can make the name of `\\u` longer, for a digit stands there. -/
theorem isCalm_escapeGroup (n : Nat) : IsCalm (escapeGroup n) := by
  have hud : IsCalm "\\ud" := isCalm_word "ud" (by decide)
  have huc : IsCalm "\\uc" := isCalm_word "uc" (by decide)
  have hfallback : IsCalm "6" := IsPlain.isCalm (by decide)
  have hu : IsCalm (.char '\\' :: "u" ++ Text.padded 6 n) :=
    isCalm_numbered "u" (by decide) (by decide) (fun _ _ => rfl)
      (fun _ => Text.isDigit_of_mem_padded)
      (List.append_ne_nil_of_right_ne_nil _ (Text.ofNat_ne_nil n))
  exact hud.append (huc.append (hfallback.append hu)).group

theorem isCalm_escapedImage (mode : UnicodeMode) (c : CodePoint) :
    IsCalm (escapedImage mode c) := by
  rcases escapedImage_cases mode c with
    ⟨-, h⟩ | ⟨-, h⟩ | ⟨-, h⟩ | ⟨-, h⟩ | ⟨⟨hescape, hopen, hclose, -⟩, h⟩ <;> rw [h]
  · exact isCalm_symbol (.char '\\') rfl
  · exact isCalm_symbol (.char '\x7b') rfl
  · exact isCalm_symbol (.char '\x7d') rfl
  · exact isCalm_word "tab" (by decide)
  · split
    · exact IsPlain.isCalm (List.forall_mem_singleton.mpr ⟨hescape, hopen, hclose⟩)
    · rw [escapeCode_eq_flatMap]
      exact isCalm_flatMap fun n _ => isCalm_escapeGroup n

/-- **Escaped text is calm**, whatever stands in it. -/
theorem isCalm_escape (mode : UnicodeMode) (t : Text) : IsCalm (escape mode t) := by
  rw [escape_eq_flatMap]
  exact isCalm_flatMap fun c _ => isCalm_escapedImage mode c

end RichText.Rtf
