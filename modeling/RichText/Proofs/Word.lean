import RichText.Proofs.Numeral
import RichText.Proofs.Scanner
import RichText.Rtf.Word

/-!
# Proofs/Word — control words are read as they are written

    \name, letters of what follows ──▸ name
    digits, digits of what follows ──▸ number

Only a backslash begins a control word (`words_cons`), so whatever a control word takes of what
follows it, the words that are read behind it stay the same.  It takes nothing if a mark or a space
follows, and a font size and a tab take what they run into: pieces that are separated are read word
by word (`words_spelling`).
-/

namespace RichText.Rtf

/-! ## What is no control word -/

theorem words_nil : words [] = [] := by
  rw [words, lexemes]
  rfl

/-- Only a backslash begins a control word. -/
theorem words_cons {c : CodePoint} (h : c ≠ .char '\\') (t : Text) : words (c :: t) = words t := by
  have hc : c.is '\\' = false := by simpa [CodePoint.is] using h
  rw [words, lexemes, hc]
  split
  · rfl
  · split <;> rfl

theorem words_symbol {c : CodePoint} (h : c.isLetter = false) (t : Text) :
    words (.char '\\' :: c :: t) = words t := by
  rw [words, lexemes]
  show List.filterMap _ ((control (c :: t)).1 :: lexemes (control (c :: t)).2) = _
  rw [control, if_neg (Bool.eq_false_iff.mp h)]
  rfl

/-- Code points other than backslashes leave the words behind them as they are. -/
theorem words_dropWhile {p : CodePoint → Bool} (hp : p (.char '\\') = false) (t : Text) :
    words (t.dropWhile p) = words t := by
  induction t with
  | nil => rfl
  | cons c rest ih =>
    cases hc : p c with
    | false => rw [List.dropWhile_cons_of_neg (Bool.eq_false_iff.mp hc)]
    | true =>
      have hne : c ≠ .char '\\' := by
        rintro rfl
        rw [hp] at hc
        cases hc
      rw [List.dropWhile_cons_of_pos hc, ih, words_cons hne]

theorem words_dropSpace (t : Text) : words (dropSpace t) = words t := by
  rw [dropSpace.eq_def]
  split
  · exact (words_cons (by decide) _).symm
  · rfl

theorem words_of_numberAt {negative : Bool} {t rest : Text} {n : Int}
    (h : numberAt negative t = some (n, rest)) : words rest = words t := by
  rw [numberAt] at h
  split at h
  · cases h
  · cases h
    exact words_dropWhile rfl t

theorem words_leadingNumber (t : Text) : words (leadingNumber t).2 = words t := by
  rw [leadingNumber]
  split
  · next n rest h =>
    rw [signedNumber?.eq_def] at h
    split at h
    · rw [words_of_numberAt h, words_cons (by decide)]
    · exact words_of_numberAt h
  · rfl

/-! ## Control words -/

/-- A name: letters, and at least one. -/
def IsName (name : Text) : Prop := name ≠ [] ∧ ∀ c ∈ name, c.isLetter = true

instance (name : Text) : Decidable (IsName name) := inferInstanceAs (Decidable (_ ∧ _))

/-- **A control word takes the letters that follow its name, and a number behind them.** -/
theorem words_name {name : Text} (h : IsName name) (t : Text) :
    words (.char '\\' :: name ++ t)
      = ⟨name ++ t.takeWhile (·.isLetter), (leadingNumber (t.dropWhile (·.isLetter))).1⟩
        :: words t := by
  obtain ⟨hne, hletters⟩ := h
  obtain ⟨c, rest, rfl⟩ := List.exists_cons_of_ne_nil hne
  have htake : (c :: rest ++ t).takeWhile (·.isLetter) = c :: rest ++ t.takeWhile (·.isLetter) :=
    List.takeWhile_append_of_pos hletters
  have hdrop : (c :: rest ++ t).dropWhile (·.isLetter) = t.dropWhile (·.isLetter) :=
    List.dropWhile_append_of_pos hletters
  have hc : c.isLetter = true := hletters c List.mem_cons_self
  have hcontrol : control (c :: rest ++ t)
      = (.word (c :: rest ++ t.takeWhile (·.isLetter))
          (leadingNumber (t.dropWhile (·.isLetter))).1,
        dropSpace (leadingNumber (t.dropWhile (·.isLetter))).2) := by
    rw [List.cons_append, control, if_pos hc, ← List.cons_append, htake, hdrop]
  have hlexemes : lexemes (.char '\\' :: (c :: rest ++ t))
      = (control (c :: rest ++ t)).1 :: lexemes (control (c :: rest ++ t)).2 := by
    rw [lexemes]
    rfl
  rw [List.cons_append, words, hlexemes, hcontrol, List.filterMap_cons]
  show _ :: words _ = _
  rw [words_dropSpace, words_leadingNumber, words_dropWhile rfl]

/-- A text that ends the control word before it: nothing of it belongs to a name or a number. -/
def EndsWord (t : Text) : Prop :=
  ∀ c ∈ t.head?, (c.isLetter || c.isDigit || c.is '-') = false

theorem endsWord_cons {c : CodePoint} {t : Text} :
    EndsWord (c :: t) ↔ c.isLetter = false ∧ c.isDigit = false ∧ c ≠ .char '-' := by
  simp [EndsWord, CodePoint.is, and_assoc]

theorem takeWhile_isLetter_of_head {c : CodePoint} (h : c.isLetter = false) (t : Text) :
    (c :: t).takeWhile (·.isLetter) = [] ∧ (c :: t).dropWhile (·.isLetter) = c :: t :=
  ⟨List.takeWhile_cons_of_neg (Bool.eq_false_iff.mp h),
    List.dropWhile_cons_of_neg (Bool.eq_false_iff.mp h)⟩

/-- A name that nothing follows is read as it is. -/
theorem words_bare {name : Text} (hname : IsName name) {t : Text} (ht : EndsWord t) :
    words (.char '\\' :: name ++ t) = ⟨name, none⟩ :: words t := by
  rw [words_name hname]
  cases t with
  | nil =>
    rw [List.takeWhile_nil, List.append_nil]
    rfl
  | cons c rest =>
    obtain ⟨hletter, hdigit, hminus⟩ := endsWord_cons.mp ht
    obtain ⟨htake, hdrop⟩ := takeWhile_isLetter_of_head hletter rest
    rw [htake, hdrop, List.append_nil, leadingNumber_of_ne_minus rest hminus,
      numberAt_of_not_isDigit false rest hdigit]

/-- **Digits behind a name are read with the digits that follow them.** -/
theorem words_digits {name digits : Text} (hname : IsName name) (hne : digits ≠ [])
    (hdigits : ∀ c ∈ digits, c.isDigit = true) (negative : Bool) (t : Text) :
    words (.char '\\' :: name ++ ((if negative then [.char '-'] else []) ++ digits ++ t))
      = ⟨name, some (numberOf negative (digits ++ t.takeWhile (·.isDigit)))⟩ :: words t := by
  obtain ⟨d, rest, rfl⟩ := List.exists_cons_of_ne_nil hne
  obtain ⟨hd, hrest⟩ := List.forall_mem_cons.mp hdigits
  have hletter : d.isLetter = false := by
    have hcode := CodePoint.code_of_isDigit hd
    by_contra hletter
    have hcode' := CodePoint.code_of_isLetter (Bool.not_eq_false _ ▸ hletter)
    omega
  have hminus : d ≠ .char '-' := by
    rintro rfl
    cases hd
  have htake : (rest ++ t).takeWhile (·.isDigit) = rest ++ t.takeWhile (·.isDigit) :=
    List.takeWhile_append_of_pos hrest
  have hwords : words (d :: rest ++ t) = words t := by
    have hsplit := words_dropWhile (p := (·.isDigit)) rfl (d :: rest ++ t)
    rwa [List.dropWhile_append_of_pos hdigits, words_dropWhile rfl, eq_comm] at hsplit
  rw [words_name hname]
  cases negative with
  | false =>
    obtain ⟨hname, hnumber⟩ := takeWhile_isLetter_of_head hletter (rest ++ t)
    rw [if_neg Bool.false_ne_true, List.nil_append, hwords, List.cons_append, hname, hnumber,
      List.append_nil, leadingNumber_of_ne_minus _ hminus, numberAt_cons _ _ hd, htake]
    rfl
  | true =>
    obtain ⟨hname, hnumber⟩ :=
      takeWhile_isLetter_of_head (c := .char '-') rfl (d :: rest ++ t)
    rw [if_pos rfl, List.singleton_append, List.cons_append, words_cons (by decide), hwords, hname,
      hnumber, List.append_nil, leadingNumber_minus, List.cons_append, numberAt_cons _ _ hd, htake]
    rfl

/-- A number in decimal is a sign and digits that spell it. -/
theorem exists_paddedInt_eq (width : Nat) (n : Int) :
    ∃ negative digits, Text.paddedInt width n
        = (if negative then [.char '-'] else []) ++ digits
      ∧ digits ≠ [] ∧ (∀ c ∈ digits, c.isDigit = true) ∧ numberOf negative digits = n := by
  have hne (width m : Nat) : Text.padded width m ≠ [] := fun h =>
    Text.ofNat_ne_nil m (List.append_eq_nil_iff.mp h).2
  by_cases hn : n < 0
  · refine ⟨true, Text.padded (width - 1) n.natAbs, ?_, hne _ _,
      fun c => Text.isDigit_of_mem_padded, ?_⟩
    · rw [Text.paddedInt, if_pos hn]
      rfl
    · rw [numberOf, Text.toNat_padded]
      show -(n.natAbs : Int) = n
      omega
  · refine ⟨false, Text.padded width n.natAbs, ?_, hne _ _,
      fun c => Text.isDigit_of_mem_padded, ?_⟩
    · rw [Text.paddedInt, if_neg hn]
      rfl
    · rw [numberOf, Text.toNat_padded]
      show (n.natAbs : Int) = n
      omega

/-- A number that no digit follows is read as it is. -/
theorem words_number {name : Text} (hname : IsName name) (width : Nat) (n : Int) {t : Text}
    (ht : EndsWord t) :
    words (.char '\\' :: name ++ (Text.paddedInt width n ++ t)) = ⟨name, some n⟩ :: words t := by
  obtain ⟨negative, digits, hpadded, hne, hdigits, hn⟩ := exists_paddedInt_eq width n
  have hnone : t.takeWhile (·.isDigit) = [] := by
    cases t with
    | nil => rfl
    | cons c rest =>
      exact List.takeWhile_cons_of_neg (Bool.eq_false_iff.mp (endsWord_cons.mp ht).2.1)
  rw [hpadded, words_digits hname hne hdigits, hnone, List.append_nil, hn]

/-! ## Pieces -/

theorem spelling_cons (p : Piece) (ps : List Piece) :
    spelling (p :: ps) = p.spelling ++ spelling ps := List.flatMap_cons

theorem spelling_append (ps qs : List Piece) : spelling (ps ++ qs) = spelling ps ++ spelling qs :=
  List.flatMap_append

theorem isSeparated_append {ps qs : List Piece} (hps : isSeparated ps = true)
    (hqs : isSeparated qs = true) : isSeparated (ps ++ qs) = true := by
  induction ps with
  | nil => exact hqs
  | cons p rest ih =>
    rw [isSeparated, Bool.and_eq_true, Bool.and_eq_true] at hps
    obtain ⟨⟨hsound, hended⟩, hrest⟩ := hps
    have hended' : p.isEndedBy (rest ++ qs).head? = true := by
      cases rest with
      | cons q more => exact hended
      | nil => cases p <;> first | rfl | cases hended
    rw [List.cons_append, isSeparated, hsound, hended', ih hrest]
    rfl

/-- What a piece begins with ends the control word before it. -/
theorem endsWord_of_ends {p : Piece} (h : p.ends = true) (t : Text) :
    EndsWord (p.spelling ++ t) := by
  cases p with
  | char c =>
    rintro _ ⟨⟩
    simpa [Piece.ends] using h
  | word w width =>
    obtain ⟨name, number⟩ := w
    cases number <;> exact endsWord_cons.mpr ⟨rfl, rfl, by decide⟩
  | _ => exact endsWord_cons.mpr ⟨rfl, rfl, by decide⟩

/-- **A piece that is ended is read as it is**; a font size and a tab take what they run into. -/
theorem words_piece {p : Piece} {rest : List Piece} (hsound : p.isSound = true)
    (hended : p.isEndedBy rest.head? = true) (t : Text) :
    words (p.spelling ++ (spelling rest ++ t))
      = (p.read? (spelling rest ++ t)).toList ++ words (spelling rest ++ t) := by
  cases p with
  | opening => exact words_cons (by decide) _
  | closing => exact words_cons (by decide) _
  | symbol c => exact words_symbol (by simpa [Piece.isSound] using hsound) _
  | char c => exact words_cons (by simpa [Piece.isSound, CodePoint.is] using hsound) _
  | fontSize =>
    have hname : IsName "fs" := by decide
    have hdigits : ∀ c ∈ ("24" : Text), c.isDigit = true := by decide
    exact words_digits hname (by decide) hdigits false _
  | tab =>
    have hname : IsName "tab" := by decide
    exact words_name hname _
  | word w width =>
    obtain ⟨name, number⟩ := w
    have hname : IsName name := by simpa [Piece.isSound, IsName] using hsound
    obtain ⟨q, more, rfl⟩ : ∃ q more, rest = q :: more := by
      cases rest with
      | nil => cases hended
      | cons q more => exact ⟨q, more, rfl⟩
    have hends : EndsWord (spelling (q :: more) ++ t) := by
      rw [spelling_cons, List.append_assoc]
      exact endsWord_of_ends hended _
    cases number with
    | none => exact words_bare hname hends
    | some n =>
      rw [Piece.spelling, List.append_assoc]
      exact words_number hname width n hends

/-- **Separated pieces are read word by word**, whatever follows them. -/
theorem words_spelling {ps : List Piece} (h : isSeparated ps = true) (t : Text) :
    words (spelling ps ++ t) = readBefore ps t ++ words t := by
  induction ps with
  | nil => rfl
  | cons p rest ih =>
    rw [isSeparated, Bool.and_eq_true, Bool.and_eq_true] at h
    obtain ⟨⟨hsound, hended⟩, hrest⟩ := h
    rw [spelling_cons, List.append_assoc, words_piece hsound hended, ih hrest, readBefore,
      List.append_assoc]

/-! ## Words that run into what follows -/

/-- A number is at least ten times what it begins with, if more digits follow. -/
theorem ten_mul_le_toNat (c : CodePoint) (first digits : Text) :
    10 * Text.toNat first ≤ Text.toNat (first ++ c :: digits) := by
  have key (n : Nat) :
      n ≤ digits.foldl (fun n (c : CodePoint) => n * 10 + (c.code - 48)) n := by
    induction digits generalizing n with
    | nil => exact Nat.le_refl n
    | cons d rest ih => exact Nat.le_trans (by omega) (ih (n * 10 + (d.code - 48)))
  rw [Text.toNat, Text.toNat, List.foldl_append, List.foldl_cons]
  exact Nat.le_trans (by omega) (key _)

theorem read?_fontSize_iff (t : Text) :
    Piece.fontSize.read? t = Piece.fontSize.written? ↔ Piece.fontSize.runsInto t = false := by
  cases t with
  | nil => exact iff_of_true rfl rfl
  | cons c rest =>
    cases hc : c.isDigit with
    | false =>
      have hnone : (c :: rest).takeWhile (·.isDigit) = [] :=
        List.takeWhile_cons_of_neg (Bool.eq_false_iff.mp hc)
      refine iff_of_true ?_ hc
      rw [Piece.read?, hnone]
      rfl
    | true =>
      refine iff_of_false (fun h => ?_) fun h => Bool.false_ne_true (h.symm.trans hc)
      rw [Piece.read?, List.takeWhile_cons_of_pos hc] at h
      have hlarge := ten_mul_le_toNat c "24" (rest.takeWhile (·.isDigit))
      have h24 : Text.toNat ("24" ++ c :: rest.takeWhile (·.isDigit)) = 24 :=
        Int.ofNat.inj (Option.some.inj (ControlWord.mk.inj (Option.some.inj h)).2)
      rw [h24] at hlarge
      exact absurd hlarge (by decide)

theorem read?_tab_iff (t : Text) :
    Piece.tab.read? t = Piece.tab.written? ↔ Piece.tab.runsInto t = false := by
  have hread : Piece.tab.read? t = Piece.tab.written?
      ↔ t.takeWhile (·.isLetter) = [] ∧ (leadingNumber (t.dropWhile (·.isLetter))).1 = none := by
    rw [Piece.read?, Piece.written?, Option.some.injEq, ControlWord.mk.injEq,
      List.append_right_eq_self]
  rw [hread, Piece.runsInto, Bool.or_eq_false_iff, Option.isSome_eq_false_iff,
    Option.isNone_iff_eq_none]
  cases t with
  | nil => exact iff_of_true ⟨rfl, rfl⟩ ⟨rfl, rfl⟩
  | cons c rest =>
    cases hc : c.isLetter with
    | false =>
      obtain ⟨htake, hdrop⟩ := takeWhile_isLetter_of_head hc rest
      rw [htake, hdrop]
      exact and_congr_left fun _ => iff_of_true rfl hc
    | true =>
      rw [List.takeWhile_cons_of_pos hc]
      refine iff_of_false (fun h => List.cons_ne_nil _ _ h.1) fun h => ?_
      exact Bool.false_ne_true (h.1.symm.trans hc)

/-- **A piece is read as it is written just where it runs into nothing.** -/
theorem read?_eq_written?_iff (p : Piece) (t : Text) :
    p.read? t = p.written? ↔ p.runsInto t = false := by
  cases p with
  | fontSize => exact read?_fontSize_iff t
  | tab => exact read?_tab_iff t
  | _ => exact iff_of_true rfl rfl

theorem length_read? (p : Piece) (t : Text) :
    (p.read? t).toList.length = p.written?.toList.length := by
  cases p <;> rfl

/-- Pieces are read as they are written just where none of them runs into what follows it. -/
theorem readBefore_eq_written_iff (ps : List Piece) (t : Text) :
    readBefore ps t = written ps
      ↔ ∀ before p behind, ps = before ++ p :: behind →
        p.runsInto (spelling behind ++ t) = false := by
  induction ps with
  | nil =>
    refine iff_of_true rfl fun before p behind h => ?_
    exact absurd h.symm (List.append_ne_nil_of_right_ne_nil _ (List.cons_ne_nil _ _))
  | cons p rest ih =>
    have hwritten : written (p :: rest) = p.written?.toList ++ written rest := by
      rw [written, List.filterMap_cons]
      cases p.written? <;> rfl
    rw [readBefore, hwritten]
    constructor
    · intro h before q behind hsplit
      obtain ⟨hp, hrest⟩ := List.append_inj h (length_read? p _)
      obtain ⟨-, heq⟩ | ⟨before', -, hsplit⟩ := List.cons_eq_append_iff.mp hsplit
      · obtain ⟨rfl, rfl⟩ := List.cons.inj heq
        refine (read?_eq_written?_iff q _).mp ?_
        rw [← Option.head?_toList (o := q.read? _), hp, Option.head?_toList]
      · exact ih.mp hrest before' q behind hsplit
    · intro h
      have hp := (read?_eq_written?_iff p _).mpr (h [] p rest rfl)
      have hrest := ih.mpr fun before q behind hsplit =>
        h (p :: before) q behind (congrArg (p :: ·) hsplit)
      rw [hp, hrest]

end RichText.Rtf
