import RichText.Text.Surrogate
import RichText.Text.Utf8
import RichText.Text.WellFormed

/-!
# Proofs/Utf8 — UTF-8 is read as it is written

    text ──utf8?──▸ bytes        a text has bytes unless it holds half of a surrogate pair
    bytes ──ofUtf8?──▸ text      and those are just the bytes that are read (`ofUtf8?_eq_some_iff`)

Both work character by character.  A number is cut into sextets on one way and put together from them on
the other, so that each length of a character has one lemma a way; the ranges of its bytes are what
keeps the numbers of other lengths and those of no character out (`isUtf8_iff`).
-/

namespace RichText

variable {a b c d : UInt8} {i j k l n : Nat} {x : Char} {rest s bytes : List UInt8} {t : Text}

namespace CodePoint

/-! ## Bytes of a number -/

theorem ofNat_eq_of_toNat (h : b.toNat = n) : UInt8.ofNat n = b := by
  rw [← h, UInt8.ofNat_toNat]

theorem utf8OfCode_one (ha : a.toNat < 0x80) : utf8OfCode a.toNat = [a] := by
  rw [utf8OfCode, if_pos ha, UInt8.ofNat_toNat]

/-- Five bits and six make two bytes. -/
theorem utf8OfCode_two (h : 0x80 ≤ i * 0x40 + j) (hi : i < 0x20) (hj : j < 0x40)
    (ha : a.toNat = 0xC0 + i) (hb : b.toNat = 0x80 + j) : utf8OfCode (i * 0x40 + j) = [a, b] := by
  rw [utf8OfCode, if_neg (by omega), if_pos (by omega), ofNat_eq_of_toNat (b := a) (by omega),
    ofNat_eq_of_toNat (b := b) (by omega)]

/-- Four bits and twice six make three bytes. -/
theorem utf8OfCode_three (h : 0x800 ≤ (i * 0x40 + j) * 0x40 + k) (hi : i < 0x10) (hj : j < 0x40)
    (hk : k < 0x40) (ha : a.toNat = 0xE0 + i) (hb : b.toNat = 0x80 + j) (hc : c.toNat = 0x80 + k) :
    utf8OfCode ((i * 0x40 + j) * 0x40 + k) = [a, b, c] := by
  rw [utf8OfCode, if_neg (by omega), if_neg (by omega), if_pos (by omega),
    ofNat_eq_of_toNat (b := a) (by omega), ofNat_eq_of_toNat (b := b) (by omega),
    ofNat_eq_of_toNat (b := c) (by omega)]

/-- Three bits and three times six make four bytes. -/
theorem utf8OfCode_four (h : 0x10000 ≤ ((i * 0x40 + j) * 0x40 + k) * 0x40 + l) (hj : j < 0x40)
    (hk : k < 0x40) (hl : l < 0x40) (ha : a.toNat = 0xF0 + i) (hb : b.toNat = 0x80 + j)
    (hc : c.toNat = 0x80 + k) (hd : d.toNat = 0x80 + l) :
    utf8OfCode (((i * 0x40 + j) * 0x40 + k) * 0x40 + l) = [a, b, c, d] := by
  rw [utf8OfCode, if_neg (by omega), if_neg (by omega), if_neg (by omega),
    ofNat_eq_of_toNat (b := a) (by omega), ofNat_eq_of_toNat (b := b) (by omega),
    ofNat_eq_of_toNat (b := c) (by omega), ofNat_eq_of_toNat (b := d) (by omega)]

theorem toNat_ofNat_byte (h : n < 0x100) : (UInt8.ofNat n).toNat = n := UInt8.toNat_ofNat_of_lt' h

/-- The numbers of characters. -/
theorem toNat_bounds (x : Char) : x.toNat < 0xD800 ∨ 0xDFFF < x.toNat ∧ x.toNat < 0x110000 := x.valid

/-! ## Ranges of bytes -/

/-- A byte goes on with a sequence if its upper two bits are those of 0x80. -/
theorem isContinuation_iff : IsContinuation b ↔ ∃ j < 0x40, b.toNat = 0x80 + j := by
  refine ⟨fun ⟨h, h'⟩ => ⟨b.toNat - 0x80, by omega, by omega⟩, ?_⟩
  rintro ⟨j, hj, hb⟩
  exact ⟨by omega, by omega⟩

theorem isContinuation_ofNat (h : j < 0x40) : IsContinuation (.ofNat (0x80 + j)) :=
  isContinuation_iff.mpr ⟨j, h, toNat_ofNat_byte (by omega)⟩

/-- The bytes of a character are in their ranges. -/
theorem isUtf8_utf8OfCode (x : Char) : IsUtf8 (utf8OfCode x.toNat) := by
  have hx := toNat_bounds x
  rw [utf8OfCode]
  split
  · exact .one (by rw [toNat_ofNat_byte] <;> omega)
  split
  · exact .two (by rw [toNat_ofNat_byte] <;> omega) (isContinuation_ofNat (by omega))
  split
  · refine .three ?_ (isContinuation_ofNat (by omega)) (isContinuation_ofNat (by omega)) ?_ ?_
    all_goals rw [toNat_ofNat_byte (by omega)]
    · omega
    all_goals rw [toNat_ofNat_byte (by omega)]; omega
  · refine .four ?_ (isContinuation_ofNat (by omega)) (isContinuation_ofNat (by omega))
      (isContinuation_ofNat (by omega)) ?_ ?_
    all_goals rw [toNat_ofNat_byte (by omega)]
    · omega
    all_goals rw [toNat_ofNat_byte (by omega)]; omega

/-- A number that is no half of a surrogate pair is that of a character. -/
theorem exists_char (h : n < 0xD800 ∨ 0xDFFF < n ∧ n < 0x110000) : ∃ x : Char, x.toNat = n :=
  ⟨Char.ofNatAux n h, rfl⟩

/-- **Bytes in the ranges of a character** are those of one. -/
theorem IsUtf8.exists_char (h : IsUtf8 s) : ∃ x : Char, utf8OfCode x.toNat = s := by
  cases h with
  | @one a ha =>
    obtain ⟨x, hx⟩ := CodePoint.exists_char (n := a.toNat) (by omega)
    exact ⟨x, hx ▸ utf8OfCode_one (by omega)⟩
  | @two a b ha hb =>
    obtain ⟨i, hi⟩ := Nat.exists_eq_add_of_le (show 0xC0 ≤ a.toNat by omega)
    obtain ⟨j, hj, hb⟩ := isContinuation_iff.mp hb
    obtain ⟨x, hx⟩ := CodePoint.exists_char (n := i * 0x40 + j) (by omega)
    exact ⟨x, hx ▸ utf8OfCode_two (by omega) (by omega) hj hi hb⟩
  | @three a b c ha hb hc hlong hhalf =>
    obtain ⟨i, hi⟩ := Nat.exists_eq_add_of_le ha.1
    obtain ⟨j, hj, hb⟩ := isContinuation_iff.mp hb
    obtain ⟨k, hk, hc⟩ := isContinuation_iff.mp hc
    obtain ⟨x, hx⟩ := CodePoint.exists_char (n := (i * 0x40 + j) * 0x40 + k) (by omega)
    exact ⟨x, hx ▸ utf8OfCode_three (by omega) (by omega) hj hk hi hb hc⟩
  | @four a b c d ha hb hc hd hlong hlarge =>
    obtain ⟨i, hi⟩ := Nat.exists_eq_add_of_le ha.1
    obtain ⟨j, hj, hb⟩ := isContinuation_iff.mp hb
    obtain ⟨k, hk, hc⟩ := isContinuation_iff.mp hc
    obtain ⟨l, hl, hd⟩ := isContinuation_iff.mp hd
    obtain ⟨x, hx⟩ := CodePoint.exists_char (n := ((i * 0x40 + j) * 0x40 + k) * 0x40 + l) (by omega)
    exact ⟨x, hx ▸ utf8OfCode_four (by omega) hj hk hl hi hb hc hd⟩

end CodePoint

open CodePoint

namespace Text

/-! ## Reading one character -/

theorem continuation?_eq_some_iff : continuation? b = some j ↔ b.toNat = 0x80 + j ∧ j < 0x40 := by
  rw [continuation?]
  split <;> simp only [Option.some.injEq, reduceCtorEq, false_iff] <;> omega

theorem charFrom?_eq_some_iff {p : CodePoint} :
    charFrom? i n = some p ↔ i ≤ n ∧ ∃ x : Char, p = .char x ∧ x.toNat = n := by
  rw [charFrom?]
  constructor
  · intro h
    by_cases hn : n.isValidChar
    · rw [dif_pos hn, Option.ite_none_right_eq_some, Option.some.injEq] at h
      exact ⟨h.1, _, h.2.symm, rfl⟩
    · rw [dif_neg hn] at h
      cases h
  · rintro ⟨hleast, x, rfl, rfl⟩
    have hx : x.toNat.isValidChar := x.valid
    rw [dif_pos hx, if_pos hleast]
    rfl

theorem ofUtf8?_one (ha : a.toNat < 0x80) (hx : x.toNat = a.toNat) :
    ofUtf8? (a :: rest) = (ofUtf8? rest).map (.char x :: ·) := by
  have hchar : charFrom? 0 a.toNat = some (.char x) :=
    charFrom?_eq_some_iff.mpr ⟨Nat.zero_le _, x, rfl, hx⟩
  rw [ofUtf8?.eq_def]
  simp only [if_pos ha, hchar, Option.bind_eq_bind, Option.bind_some]
  cases ofUtf8? rest <;> rfl

/-- Two bytes are read back, if one would not have done. -/
theorem ofUtf8?_two (ha : a.toNat = 0xC0 + i) (hi : i < 0x20) (hb : b.toNat = 0x80 + j)
    (hj : j < 0x40) (hx : x.toNat = i * 0x40 + j) (h : 0x80 ≤ x.toNat) :
    ofUtf8? (a :: b :: rest) = (ofUtf8? rest).map (.char x :: ·) := by
  have hchar : charFrom? 0x80 ((a.toNat - 0xC0) * 0x40 + j) = some (.char x) :=
    charFrom?_eq_some_iff.mpr ⟨by omega, x, rfl, by omega⟩
  rw [ofUtf8?.eq_def]
  dsimp only
  rw [if_neg (by omega), if_neg (by omega), if_pos (by omega)]
  simp only [continuation?_eq_some_iff.mpr ⟨hb, hj⟩, hchar, Option.bind_eq_bind, Option.bind_some]
  cases ofUtf8? rest <;> rfl

/-- Three bytes are read back, if two would not have done. -/
theorem ofUtf8?_three (ha : a.toNat = 0xE0 + i) (hi : i < 0x10) (hb : b.toNat = 0x80 + j)
    (hj : j < 0x40) (hc : c.toNat = 0x80 + k) (hk : k < 0x40)
    (hx : x.toNat = (i * 0x40 + j) * 0x40 + k) (h : 0x800 ≤ x.toNat) :
    ofUtf8? (a :: b :: c :: rest) = (ofUtf8? rest).map (.char x :: ·) := by
  have hchar : charFrom? 0x800 (((a.toNat - 0xE0) * 0x40 + j) * 0x40 + k) = some (.char x) :=
    charFrom?_eq_some_iff.mpr ⟨by omega, x, rfl, by omega⟩
  rw [ofUtf8?.eq_def]
  dsimp only
  rw [if_neg (by omega), if_neg (by omega), if_neg (by omega), if_pos (by omega)]
  simp only [continuation?_eq_some_iff.mpr ⟨hb, hj⟩, continuation?_eq_some_iff.mpr ⟨hc, hk⟩, hchar,
    Option.bind_eq_bind, Option.bind_some]
  cases ofUtf8? rest <;> rfl

/-- Four bytes are read back, if three would not have done. -/
theorem ofUtf8?_four (ha : a.toNat = 0xF0 + i) (hi : i < 0x08) (hb : b.toNat = 0x80 + j)
    (hj : j < 0x40) (hc : c.toNat = 0x80 + k) (hk : k < 0x40) (hd : d.toNat = 0x80 + l)
    (hl : l < 0x40) (hx : x.toNat = ((i * 0x40 + j) * 0x40 + k) * 0x40 + l) (h : 0x10000 ≤ x.toNat) :
    ofUtf8? (a :: b :: c :: d :: rest) = (ofUtf8? rest).map (.char x :: ·) := by
  have hchar : charFrom? 0x10000 ((((a.toNat - 0xF0) * 0x40 + j) * 0x40 + k) * 0x40 + l)
      = some (.char x) := charFrom?_eq_some_iff.mpr ⟨by omega, x, rfl, by omega⟩
  rw [ofUtf8?.eq_def]
  dsimp only
  rw [if_neg (by omega), if_neg (by omega), if_neg (by omega), if_neg (by omega), if_pos (by omega)]
  simp only [continuation?_eq_some_iff.mpr ⟨hb, hj⟩, continuation?_eq_some_iff.mpr ⟨hc, hk⟩,
    continuation?_eq_some_iff.mpr ⟨hd, hl⟩, hchar, Option.bind_eq_bind, Option.bind_some]
  cases ofUtf8? rest <;> rfl

/-- **The bytes of a character are read as it**, whatever follows them. -/
theorem ofUtf8?_utf8OfCode_append (x : Char) (rest : List UInt8) :
    ofUtf8? (utf8OfCode x.toNat ++ rest) = (ofUtf8? rest).map (.char x :: ·) := by
  have hx := toNat_bounds x
  have hbyte {n : Nat} (h : n < 0x100) : (UInt8.ofNat n).toNat = n := toNat_ofNat_byte h
  rw [utf8OfCode]
  split
  · exact ofUtf8?_one (by rw [hbyte] <;> omega) (by rw [hbyte]; omega)
  split
  · exact ofUtf8?_two (hbyte (by omega)) (by omega) (hbyte (by omega)) (by omega) (by omega) (by omega)
  split
  · exact ofUtf8?_three (hbyte (by omega)) (by omega) (hbyte (by omega)) (by omega) (hbyte (by omega))
      (by omega) (by omega) (by omega)
  · exact ofUtf8?_four (hbyte (by omega)) (by omega) (hbyte (by omega)) (by omega) (hbyte (by omega))
      (by omega) (hbyte (by omega)) (by omega) (by omega) (by omega)

/-! ## Reading a text -/

/-- A text has bytes if its first code point is a character and the rest has bytes. -/
theorem utf8?_cons_eq_some_iff {p : CodePoint} :
    utf8? (p :: t) = some bytes ↔ ∃ x : Char, p = .char x
      ∧ ∃ rest, t.utf8? = some rest ∧ bytes = utf8OfCode x.toNat ++ rest := by
  cases p with
  | char x =>
    rw [utf8?, CodePoint.utf8?]
    cases t.utf8? <;> simp [eq_comm]
  | high h => simp [utf8?, CodePoint.utf8?]
  | low l => simp [utf8?, CodePoint.utf8?]

/-- A text behind a character. -/
theorem utf8?_char_cons (h : t.utf8? = some rest) (hx : utf8OfCode x.toNat = s) :
    utf8? (.char x :: t) = some (s ++ rest) :=
  utf8?_cons_eq_some_iff.mpr ⟨x, rfl, rest, h, hx ▸ rfl⟩

/-- What is written is read. -/
theorem ofUtf8?_of_utf8? (h : t.utf8? = some bytes) : ofUtf8? bytes = some t := by
  induction t generalizing bytes with
  | nil =>
    obtain rfl := Option.some.inj h
    rfl
  | cons p t ih =>
    obtain ⟨x, rfl, rest, hrest, rfl⟩ := utf8?_cons_eq_some_iff.mp h
    rw [ofUtf8?_utf8OfCode_append, ih hrest]
    rfl

/-- What is read is written so. -/
theorem utf8?_of_ofUtf8? (h : ofUtf8? bytes = some t) : t.utf8? = some bytes := by
  fun_induction ofUtf8? bytes generalizing t with
  | case1 =>
    obtain rfl := Option.some.inj h
    rfl
  | case2 a rest ha ih =>
    simp only [bind, Option.bind_eq_some_iff, pure, Option.some.injEq, charFrom?_eq_some_iff] at h
    obtain ⟨_, ⟨-, x, rfl, hx⟩, t, ht, rfl⟩ := h
    exact utf8?_char_cons (ih ht) (hx ▸ utf8OfCode_one ha)
  | case4 a _ _ ha b rest ih =>
    simp only [bind, Option.bind_eq_some_iff, pure, Option.some.injEq, charFrom?_eq_some_iff,
      continuation?_eq_some_iff] at h
    obtain ⟨j, ⟨hb, hj⟩, _, ⟨hleast, x, rfl, hx⟩, t, ht, rfl⟩ := h
    refine utf8?_char_cons (ih ht) (s := [a, b]) ?_
    exact hx ▸ utf8OfCode_two hleast (by omega) hj (by omega) hb
  | case6 a _ _ _ ha b c rest ih =>
    simp only [bind, Option.bind_eq_some_iff, pure, Option.some.injEq, charFrom?_eq_some_iff,
      continuation?_eq_some_iff] at h
    obtain ⟨j, ⟨hb, hj⟩, k, ⟨hc, hk⟩, _, ⟨hleast, x, rfl, hx⟩, t, ht, rfl⟩ := h
    refine utf8?_char_cons (ih ht) (s := [a, b, c]) ?_
    exact hx ▸ utf8OfCode_three hleast (by omega) hj hk (by omega) hb hc
  | case8 a _ _ _ _ ha b c d rest ih =>
    simp only [bind, Option.bind_eq_some_iff, pure, Option.some.injEq, charFrom?_eq_some_iff,
      continuation?_eq_some_iff] at h
    obtain ⟨j, ⟨hb, hj⟩, k, ⟨hc, hk⟩, l, ⟨hd, hl⟩, _, ⟨hleast, x, rfl, hx⟩, t, ht, rfl⟩ := h
    refine utf8?_char_cons (ih ht) (s := [a, b, c, d]) ?_
    exact hx ▸ utf8OfCode_four hleast hj hk hl (by omega) hb hc hd
  | case3 | case5 | case7 | case9 | case10 => cases h

/-- **The bytes that are read as a text are those of the text.** -/
theorem ofUtf8?_eq_some_iff : ofUtf8? bytes = some t ↔ t.utf8? = some bytes :=
  ⟨utf8?_of_ofUtf8?, ofUtf8?_of_utf8?⟩

/-- **Well-formed bytes are those of a text.** -/
theorem isUtf8_iff : IsUtf8 bytes ↔ ∃ t : Text, t.utf8? = some bytes := by
  constructor
  · intro h
    induction h with
    | nil => exact ⟨[], rfl⟩
    | append hs _ ih =>
      obtain ⟨t, ht⟩ := ih
      obtain ⟨x, hx⟩ := hs.exists_char
      exact ⟨.char x :: t, utf8?_char_cons ht hx⟩
  · rintro ⟨t, h⟩
    induction t generalizing bytes with
    | nil =>
      obtain rfl := Option.some.inj h
      exact .nil
    | cons p t ih =>
      obtain ⟨x, rfl, rest, hrest, rfl⟩ := utf8?_cons_eq_some_iff.mp h
      exact .append (isUtf8_utf8OfCode x) (ih hrest)

/-- Bytes that are not well-formed are not read. -/
theorem ofUtf8?_eq_none_iff : ofUtf8? bytes = none ↔ ¬ IsUtf8 bytes := by
  rw [isUtf8_iff, Option.eq_none_iff_forall_ne_some, not_exists]
  exact forall_congr' fun t => not_congr ofUtf8?_eq_some_iff

/-- **A text has bytes** unless it holds half of a surrogate pair. -/
theorem exists_utf8?_iff : (∃ bytes, t.utf8? = some bytes) ↔ t.hasSurrogate = false := by
  induction t with
  | nil => exact ⟨fun _ => rfl, fun _ => ⟨[], rfl⟩⟩
  | cons p t ih =>
    rw [hasSurrogate, List.any_cons, Bool.or_eq_false_iff, ← hasSurrogate, ← ih]
    constructor
    · rintro ⟨bytes, h⟩
      obtain ⟨x, rfl, rest, hrest, -⟩ := utf8?_cons_eq_some_iff.mp h
      exact ⟨rfl, rest, hrest⟩
    · rintro ⟨hp, rest, hrest⟩
      cases p with
      | char x => exact ⟨_, utf8?_char_cons hrest rfl⟩
      | high h => cases hp
      | low l => cases hp

end Text

end RichText
