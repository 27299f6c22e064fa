import Mathlib.Data.List.Forall2
import RichText.Fields
import RichText.Outcome
import RichText.Proofs.JsonScalar

/-!
# Proofs/JsonValue — data reads back from its JSON document

    v ──writeAt──▸ t      t ++ rest ──value──▸ v, rest           (`IsSpelling`)

`t` is a spelling of `v` if reading takes all of `t`, and nothing of what follows it, for `v`.  Items
and entries are spelled one by one, and between them there is a comma and blanks, which are skipped.
So what is written of data is read back as it (`isReadAs_of_isData`), in every layout of blanks.
-/

namespace RichText

/-! ## Data -/

/-- Named values as the entries of a mapping. -/
def Fields.entries (fields : Fields) : List (Value × Value) := fields.map fun f => (.text f.1, f.2)

theorem Fields.entries_cons (f : Text × Value) (rest : Fields) :
    Fields.entries (f :: rest) = (.text f.1, f.2) :: Fields.entries rest := rfl

namespace Value

/-- **Data**: null, truth values, integers within the digit limit, texts, and lists and mappings of
data; no name occurs twice in a mapping. -/
inductive IsData : Value → Prop
  | null : IsData null
  | bool (b : Bool) : IsData (bool b)
  | int {i : Int} (h : Text.IsShort i) : IsData (int i)
  | text (t : RichText.Text) : IsData (text t)
  | list {items : List Value} (h : ∀ v ∈ items, IsData v) : IsData (list items)
  | dict {fields : Fields} (hnames : fields.names.Nodup) (h : ∀ f ∈ fields, IsData f.2) :
    IsData (dict fields.entries)

end Value

namespace Json

/-! ## Blanks -/

/-- A layout of blanks, or none at all. -/
def Indent.IsBlank (layout : Indent) : Prop := ∀ unit ∈ layout, ∀ c ∈ unit, isBlank c = true

theorem isBlank_cases {c : CodePoint} (h : isBlank c = true) :
    c = .char ' ' ∨ c = .char '\t' ∨ c = .char '\n' ∨ c = .char '\r' := by
  cases c with
  | char c => simpa [isBlank, or_assoc] using h
  | high h' => cases h
  | low l => cases h

theorem skipBlank_append {blanks rest : Text} (hb : ∀ c ∈ blanks, isBlank c = true)
    (hr : ∀ c ∈ rest.head?, isBlank c = false) : skipBlank (blanks ++ rest) = rest := by
  have := Text.span_append hb hr
  rw [List.span_eq_takeWhile_dropWhile] at this
  exact congrArg Prod.snd this

/-- Blanks do not go on with a number. -/
theorem isDelimited_append {blanks rest : Text} (hb : ∀ c ∈ blanks, isBlank c = true)
    (hr : IsDelimited rest) : IsDelimited (blanks ++ rest) := by
  cases blanks with
  | nil => exact hr
  | cons b more =>
    intro c hc
    obtain rfl : b = c := Option.some.inj hc
    obtain rfl | rfl | rfl | rfl := isBlank_cases (hb b List.mem_cons_self) <;> decide

/-- Blanks between two items, or in front of a closing mark. -/
structure Gap where
  blanks : Text
  isBlank : ∀ c ∈ blanks, Json.isBlank c = true

theorem Gap.isDelimited (g : Gap) {c : CodePoint} (hc : c ∈ (",]\x7d" : Text)) (rest : Text) :
    IsDelimited (g.blanks ++ c :: rest) := isDelimited_append g.isBlank (isDelimited_cons hc rest)

/-- The blanks of a line break. -/
theorem exists_lineBreak_eq {layout : Indent} (hl : layout.IsBlank) (depth : Nat) :
    ∃ gap : Gap, lineBreak layout depth = gap.blanks := by
  refine ⟨⟨lineBreak layout depth, fun c hc => ?_⟩, rfl⟩
  cases layout with
  | none => cases hc
  | some unit =>
    obtain hc | hc := List.mem_append.mp hc
    · obtain rfl := List.mem_singleton.mp hc
      rfl
    · obtain ⟨u, hu, hc⟩ := List.mem_flatten.mp hc
      exact hl unit rfl c (List.eq_of_mem_replicate hu ▸ hc)

/-- Between two items there is a comma with blanks behind it. -/
theorem exists_separator_eq {layout : Indent} (hl : layout.IsBlank) (depth : Nat) :
    ∃ gap : Gap, separator layout depth = .char ',' :: gap.blanks := by
  cases layout with
  | none => exact ⟨⟨" ", by decide⟩, rfl⟩
  | some unit =>
    obtain ⟨gap, hgap⟩ := exists_lineBreak_eq hl depth
    exact ⟨gap, by rw [separator, hgap]; rfl⟩

/-! ## Spellings -/

/-- A text that begins as one of a value does: nothing of it is skipped, and nothing is closed. -/
def Opens (t : Text) : Prop :=
  ∃ c rest, t = c :: rest ∧ isBlank c = false ∧ c ≠ .char ']' ∧ c ≠ .char '\x7d'
    ∧ c ≠ .char '\uFEFF'

theorem Opens.append {t : Text} (h : Opens t) (rest : Text) : Opens (t ++ rest) := by
  obtain ⟨c, u, rfl, hc⟩ := h
  exact ⟨c, u ++ rest, rfl, hc⟩

theorem Opens.skipBlank_append {t : Text} (h : Opens t) (gap : Gap) :
    skipBlank (gap.blanks ++ t) = t := by
  obtain ⟨c, u, rfl, hc, -⟩ := h
  exact Json.skipBlank_append gap.isBlank fun d hd => Option.some.inj hd ▸ hc

/-- A value takes fuel. -/
theorem Opens.exists_fuel {t : Text} (h : Opens t) {fuel : Nat} (hfuel : 2 * t.length ≤ fuel) :
    ∃ k, fuel = k + 1 := by
  obtain ⟨c, u, rfl, -⟩ := h
  rw [List.length_cons] at hfuel
  exact ⟨fuel - 1, by omega⟩

/-- **A spelling of a value**: reading takes just this text for it, with enough fuel. -/
structure IsSpelling (t : Text) (v : Value) : Prop where
  opens : Opens t
  value_append {fuel : Nat} {rest : Text} (hfuel : 2 * t.length ≤ fuel) (hr : IsDelimited rest) :
    value fuel (t ++ rest) = .ok (v, rest)

/-- Reading a text that does not begin with a mark of its own is reading a word or a number. -/
theorem value_eq_scalar (fuel : Nat) {c : CodePoint} {s : Text} (hquote : c ≠ .char '"')
    (hbrace : c ≠ .char '\x7b') (hbracket : c ≠ .char '[') :
    value (fuel + 1) (c :: s) = scalar (c :: s) := by
  rw [value]
  · exact fun rest h => hquote (List.cons.inj h).1
  · exact fun rest h => hbrace (List.cons.inj h).1
  · exact fun rest h => hbracket (List.cons.inj h).1

/-! ## Scalars -/

theorem isSpelling_null : IsSpelling "null" .null where
  opens := ⟨_, _, rfl, by decide⟩
  value_append {fuel rest} hfuel _ := by
    obtain ⟨fuel, rfl⟩ := Nat.exists_eq_add_of_le' hfuel
    rfl

theorem isSpelling_writeBool (b : Bool) : IsSpelling (writeBool b) (.bool b) := by
  cases b with
  | false =>
    refine ⟨⟨_, _, rfl, by decide⟩, fun {fuel rest} hfuel _ => ?_⟩
    obtain ⟨fuel, rfl⟩ := Nat.exists_eq_add_of_le' hfuel
    rfl
  | true =>
    refine ⟨⟨_, _, rfl, by decide⟩, fun {fuel rest} hfuel _ => ?_⟩
    obtain ⟨fuel, rfl⟩ := Nat.exists_eq_add_of_le' hfuel
    rfl

/-- The marks and the blanks of a document, which no number and no word begins with. -/
def marks : Text := "\"\x7b[]\x7d\uFEFF \t\n\r"

/-- A text that begins with no mark and is read as a word or a number spells what it is read as. -/
theorem isSpelling_of_scalar {c : CodePoint} {s : Text} {v : Value} (hc : ∀ m ∈ marks, c ≠ m)
    (h : ∀ {rest : Text}, IsDelimited rest → scalar (c :: s ++ rest) = .ok (v, rest)) :
    IsSpelling (c :: s) v := by
  have hopens : Opens (c :: s) := by
    refine ⟨c, s, rfl, ?_, hc _ (by decide), hc _ (by decide), hc _ (by decide)⟩
    rw [Bool.eq_false_iff]
    intro hblank
    obtain rfl | rfl | rfl | rfl := isBlank_cases hblank <;> exact hc _ (by decide) rfl
  refine ⟨hopens, fun {fuel rest} hfuel hr => ?_⟩
  obtain ⟨k, rfl⟩ := hopens.exists_fuel hfuel
  have hscalar := h hr
  rw [List.cons_append] at hscalar ⊢
  rw [value_eq_scalar k (hc _ (by decide)) (hc _ (by decide)) (hc _ (by decide))]
  exact hscalar

/-- A digit or a sign is no mark. -/
theorem ne_of_mem_marks {c : CodePoint} (h : c.isDigit = true ∨ c = .char '-') :
    ∀ m ∈ marks, c ≠ m := by
  have hmarks : ∀ m ∈ marks, m.isDigit = false ∧ m ≠ .char '-' := by decide
  rintro m hm rfl
  obtain h | h := h
  · exact absurd h (by rw [(hmarks c hm).1]; exact Bool.false_ne_true)
  · exact (hmarks c hm).2 h

theorem isSpelling_ofInt {i : Int} (hi : Text.IsShort i) :
    IsSpelling (Text.ofInt i) (.int i) := by
  obtain ⟨c, s, hc, hfirst⟩ : ∃ c s, Text.ofInt i = c :: s
      ∧ (c.isDigit = true ∨ c = .char '-') := by
    obtain ⟨d, ds, hd, h | h⟩ := exists_ofInt_eq i
    · exact ⟨d, ds, h, .inl hd⟩
    · exact ⟨_, d :: ds, h, .inr rfl⟩
  rw [hc]
  exact isSpelling_of_scalar (ne_of_mem_marks hfirst) fun hr => hc ▸ scalar_ofInt hi hr

theorem writeText_append (t rest : Text) :
    writeText t ++ rest = .char '"' :: (t.flatMap escaped ++ .char '"' :: rest) := by
  rw [writeText, List.append_assoc, List.append_assoc]
  rfl

theorem opens_writeText (t : Text) : Opens (writeText t) := ⟨_, _, rfl, by decide⟩

theorem isSpelling_writeText (t : Text) : IsSpelling (writeText t) (.text t) where
  opens := opens_writeText t
  value_append {fuel rest} hfuel _ := by
    obtain ⟨k, rfl⟩ := (opens_writeText t).exists_fuel hfuel
    rw [writeText_append, value, textBody_escaped]
    rfl

/-! ## Lists -/

theorem joinWith_cons_cons (sep t u : Text) (us : List Text) :
    Text.joinWith sep (t :: u :: us) = t ++ (sep ++ Text.joinWith sep (u :: us)) :=
  List.append_assoc _ _ _

theorem opens_joinWith {sep t : Text} (ht : Opens t) (ts : List Text) :
    Opens (Text.joinWith sep (t :: ts)) := by
  cases ts with
  | nil => exact ht
  | cons u us => exact (ht.append sep).append _

/-- The last item of an array. -/
theorem arrayItems_last (last : Gap) {fuel : Nat} {s rest : Text} {v : Value}
    (h : value fuel s = .ok (v, last.blanks ++ .char ']' :: rest)) :
    arrayItems (fuel + 1) s = .ok ([v], rest) := by
  rw [arrayItems]
  refine except_bind_eq_ok.mpr ⟨_, h, ?_⟩
  dsimp only
  rw [skipBlank_append last.isBlank (by rintro c ⟨⟩; rfl)]
  rfl

/-- An item of an array with others behind it. -/
theorem arrayItems_cons {fuel : Nat} {s u rest : Text} {v : Value} {vs : List Value}
    (h : value fuel s = .ok (v, .char ',' :: u))
    (hvs : arrayItems fuel (skipBlank u) = .ok (vs, rest)) :
    arrayItems (fuel + 1) s = .ok (v :: vs, rest) := by
  rw [arrayItems]
  refine except_bind_eq_ok.mpr ⟨_, h, ?_⟩
  exact except_bind_eq_ok.mpr ⟨_, hvs, rfl⟩

/-- **Items read back** one after the other, up to the closing bracket. -/
theorem arrayItems_joinWith (gap last : Gap) {ts : List Text} {vs : List Value}
    (h : List.Forall₂ IsSpelling ts vs) (hne : ts ≠ []) {fuel : Nat} (rest : Text)
    (hfuel : 2 * (Text.joinWith (.char ',' :: gap.blanks) ts).length < fuel) :
    arrayItems fuel (Text.joinWith (.char ',' :: gap.blanks) ts ++ (last.blanks
      ++ .char ']' :: rest)) = .ok (vs, rest) := by
  induction h generalizing fuel with
  | nil => exact absurd rfl hne
  | @cons t v ts vs ht hts ih =>
    obtain ⟨k, rfl⟩ : ∃ k, fuel = k + 1 := ⟨fuel - 1, by omega⟩
    cases hts with
    | nil =>
      exact arrayItems_last last (ht.value_append (Nat.le_of_lt_succ hfuel)
        (last.isDelimited (by decide) rest))
    | @cons u w us ws hu hus =>
      rw [joinWith_cons_cons, List.length_append, List.length_append, List.length_cons] at hfuel
      rw [joinWith_cons_cons, List.append_assoc, List.append_assoc, List.cons_append]
      refine arrayItems_cons
        (ht.value_append (by omega) (isDelimited_cons (by decide) _)) ?_
      rw [((opens_joinWith hu.opens us).append _).skipBlank_append gap]
      exact ih (List.cons_ne_nil _ _) (by omega)

/-- An array that holds something. -/
theorem value_array {fuel : Nat} {u : Text} (hu : Opens u) {vs : List Value} {rest : Text}
    (gap : Gap) (h : arrayItems fuel u = .ok (vs, rest)) :
    value (fuel + 1) (.char '[' :: (gap.blanks ++ u)) = .ok (.list vs, rest) := by
  rw [value, hu.skipBlank_append gap]
  obtain ⟨c, s, rfl, -, hc, -⟩ := hu
  split
  · next heq => exact absurd (List.cons.inj heq).1 hc
  · rw [h]
    rfl

/-! ## Mappings -/

/-- A spelling of a named value: the name, a colon and the value. -/
def IsEntrySpelling (t : Text) (f : Text × Value) : Prop :=
  ∃ u, t = writeText f.1 ++ (": " ++ u) ∧ IsSpelling u f.2

theorem opens_entry {t : Text} {f : Text × Value} (h : IsEntrySpelling t f) : Opens t := by
  obtain ⟨u, rfl, -⟩ := h
  exact (opens_writeText f.1).append _

/-- The last entry of an object. -/
theorem objectEntries_last (last : Gap) {fuel : Nat} {name u rest : Text} {v : Value}
    (hu : Opens u) (h : value fuel u = .ok (v, last.blanks ++ .char '\x7d' :: rest)) :
    objectEntries (fuel + 1) (writeText name ++ (": " ++ u)) = .ok ([(.text name, v)], rest) := by
  rw [writeText_append, objectEntries]
  refine except_bind_eq_ok.mpr ⟨_, textBody_escaped _ name _, ?_⟩
  refine except_bind_eq_ok.mpr ⟨_, (congrArg (value fuel) ?_).trans h, ?_⟩
  · exact hu.skipBlank_append ⟨" ", by decide⟩
  dsimp only
  rw [skipBlank_append last.isBlank (by rintro c ⟨⟩; rfl)]
  rfl

/-- An entry of an object with others behind it. -/
theorem objectEntries_cons {fuel : Nat} {name u s rest : Text} {v : Value}
    {entries : List (Value × Value)} (hu : Opens u) (h : value fuel u = .ok (v, .char ',' :: s))
    (hentries : objectEntries fuel (skipBlank s) = .ok (entries, rest)) :
    objectEntries (fuel + 1) (writeText name ++ (": " ++ u))
      = .ok ((.text name, v) :: entries, rest) := by
  rw [writeText_append, objectEntries]
  refine except_bind_eq_ok.mpr ⟨_, textBody_escaped _ name _, ?_⟩
  refine except_bind_eq_ok.mpr ⟨_, (congrArg (value fuel) ?_).trans h, ?_⟩
  · exact hu.skipBlank_append ⟨" ", by decide⟩
  exact except_bind_eq_ok.mpr ⟨_, hentries, rfl⟩

/-- **Entries read back** one after the other, up to the closing brace. -/
theorem objectEntries_joinWith (gap last : Gap) {ts : List Text} {fields : Fields}
    (h : List.Forall₂ IsEntrySpelling ts fields) (hne : ts ≠ []) {fuel : Nat} (rest : Text)
    (hfuel : 2 * (Text.joinWith (.char ',' :: gap.blanks) ts).length < fuel) :
    objectEntries fuel (Text.joinWith (.char ',' :: gap.blanks) ts ++ (last.blanks
      ++ .char '\x7d' :: rest)) = .ok (fields.entries, rest) := by
  induction h generalizing fuel with
  | nil => exact absurd rfl hne
  | @cons t f ts fs ht hts ih =>
    obtain ⟨k, rfl⟩ : ∃ k, fuel = k + 1 := ⟨fuel - 1, by omega⟩
    obtain ⟨u, rfl, hu⟩ := ht
    cases hts with
    | nil =>
      rw [Text.joinWith, List.length_append, List.length_append] at hfuel
      rw [Text.joinWith, List.append_assoc, List.append_assoc]
      exact objectEntries_last last (hu.opens.append _)
        (hu.value_append (by omega) (last.isDelimited (by decide) rest))
    | @cons t' f' ts' fs' ht' hts' =>
      rw [joinWith_cons_cons, List.length_append, List.length_append, List.length_append,
        List.length_append, List.length_cons] at hfuel
      rw [joinWith_cons_cons, List.append_assoc, List.append_assoc, List.append_assoc,
        List.append_assoc, List.cons_append]
      refine objectEntries_cons (hu.opens.append _)
        (hu.value_append (by omega) (isDelimited_cons (by decide) _)) ?_
      rw [((opens_joinWith (opens_entry ht') ts').append _).skipBlank_append gap]
      exact ih (List.cons_ne_nil _ _) (by omega)

/-- An object that holds something. -/
theorem value_object {fuel : Nat} {u : Text} (hu : Opens u) {entries : List (Value × Value)}
    {rest : Text} (gap : Gap) (h : objectEntries fuel u = .ok (entries, rest)) :
    value (fuel + 1) (.char '\x7b' :: (gap.blanks ++ u)) = .ok (.dict (dictOf entries), rest) := by
  rw [value, hu.skipBlank_append gap]
  obtain ⟨c, s, rfl, -, -, hc, -⟩ := hu
  split
  · next heq => exact absurd (List.cons.inj heq).1 hc
  · rw [h]
    rfl

/-- A name that is new goes to the end. -/
theorem insert_of_notMem {name : Text} {v : Value} {fields : Fields} (h : name ∉ fields.names) :
    Value.insert (.text name) v fields.entries = Fields.entries (fields ++ [(name, v)]) := by
  induction fields with
  | nil => rfl
  | cons f rest ih =>
    obtain ⟨hne, hrest⟩ := not_or.mp (mt List.mem_cons.mpr h)
    have hsame : ¬ Value.same (.text f.1) (.text name) = true := by
      rw [Value.same, beq_iff_eq]
      exact fun heq => hne heq.symm
    rw [Fields.entries_cons, Value.insert, if_neg hsame, ih hrest]
    rfl

/-- Entries with names of their own are the mapping they were written from. -/
theorem dictOf_entries {fields : Fields} (h : fields.names.Nodup) :
    dictOf fields.entries = fields.entries := by
  have key : ∀ before : Fields, (Fields.names (before ++ fields)).Nodup →
      fields.entries.foldl (fun d e => Value.insert e.1 e.2 d) before.entries
        = Fields.entries (before ++ fields) := by
    clear h
    induction fields with
    | nil =>
      intro before _
      rw [List.append_nil]
      rfl
    | cons f rest ih =>
      intro before hnodup
      have hf : f.1 ∉ before.names := by
        rw [Fields.names, List.map_append, List.nodup_append] at hnodup
        exact fun hmem => hnodup.2.2 f.1 hmem f.1 List.mem_cons_self rfl
      have hrest : before ++ f :: rest = before ++ [(f.1, f.2)] ++ rest := by
        rw [List.append_assoc]
        rfl
      rw [Fields.entries_cons, List.foldl_cons, insert_of_notMem hf, hrest]
      exact ih _ (hrest ▸ hnodup)
  exact key [] h

/-! ## Documents -/

/-- What a spelling spells is read from it as a document. -/
theorem IsSpelling.read_eq {t : Text} {v : Value} (h : IsSpelling t v) : read t = .ok v := by
  have hvalue : value (2 * t.length + 2) (skipBlank t) = .ok (v, []) := by
    have hskip : skipBlank t = t := h.opens.skipBlank_append ⟨[], List.forall_mem_nil _⟩
    have happend : value (2 * t.length + 2) (t ++ []) = .ok (v, []) :=
      h.value_append (by omega) (by rintro c ⟨⟩)
    rw [List.append_nil] at happend
    rwa [hskip]
  obtain ⟨c, s, rfl, -, -, -, hmark⟩ := h.opens
  have hdocument : document (c :: s) = .ok v := by
    rw [document.eq_def]
    split
    · next heq => exact absurd (List.cons.inj heq).1 hmark
    · exact except_bind_eq_ok.mpr ⟨_, hvalue, rfl⟩
  rw [read, hdocument]

/-! ## What is written -/

section Layout

variable {layout : Indent}

theorem writeAt_int (depth : Nat) {i : Int} (hi : Text.IsShort i) :
    writeAt layout depth (.int i) = .ok (Text.ofInt i) := by
  show writeInt i = _
  exact if_pos hi

/-- A value that is written at a depth is read back as another one. -/
def IsReadAs (layout : Indent) (depth : Nat) (v w : Value) : Prop :=
  ∃ t, writeAt layout depth v = .ok t ∧ IsSpelling t w

/-- An entry whose key is written as a name is read back as a named value. -/
def IsEntryReadAs (layout : Indent) (depth : Nat) (e : Value × Value) (f : Text × Value) : Prop :=
  writeKey e.1 = .ok (writeText f.1) ∧ IsReadAs layout depth e.2 f.2

/-- The items of a list are written if each of them is. -/
theorem exists_writeItems {depth : Nat} {vs ws : List Value}
    (h : List.Forall₂ (IsReadAs layout depth) vs ws) :
    ∃ ts, writeItems layout depth vs = .ok ts ∧ List.Forall₂ IsSpelling ts ws := by
  induction h with
  | nil => exact ⟨[], rfl, .nil⟩
  | cons hv _ ih =>
    obtain ⟨t, ht, hspell⟩ := hv
    obtain ⟨ts, hts, hrest⟩ := ih
    refine ⟨t :: ts, ?_, .cons hspell hrest⟩
    rw [writeItems, ht, hts]
    rfl

/-- The entries of a mapping are written if each of them is. -/
theorem exists_writeEntries {depth : Nat} {entries : List (Value × Value)} {fields : Fields}
    (h : List.Forall₂ (IsEntryReadAs layout depth) entries fields) :
    ∃ ts, writeEntries layout depth entries = .ok ts
      ∧ List.Forall₂ IsEntrySpelling ts fields := by
  induction h with
  | nil => exact ⟨[], rfl, .nil⟩
  | @cons e f _ _ he _ ih =>
    obtain ⟨hkey, t, ht, hspell⟩ := he
    obtain ⟨ts, hts, hrest⟩ := ih
    refine ⟨(writeText f.1 ++ ": " ++ t) :: ts, ?_,
      .cons ⟨t, List.append_assoc _ _ _, hspell⟩ hrest⟩
    rw [writeEntries, hkey, ht, hts]
    rfl

variable (hl : layout.IsBlank)

include hl

/-- Items between marks: blanks, the items with a comma and blanks between them, and blanks. -/
theorem exists_enclosed_eq (depth : Nat) (opening closing t : Text) (ts : List Text) :
    ∃ first gap last : Gap, enclosed layout depth opening closing (t :: ts)
      = opening ++ (first.blanks ++ (Text.joinWith (.char ',' :: gap.blanks) (t :: ts)
        ++ (last.blanks ++ closing))) := by
  obtain ⟨first, hfirst⟩ := exists_lineBreak_eq hl (depth + 1)
  obtain ⟨gap, hgap⟩ := exists_separator_eq hl (depth + 1)
  obtain ⟨last, hlast⟩ := exists_lineBreak_eq hl depth
  refine ⟨first, gap, last, ?_⟩
  rw [enclosed, hfirst, hgap, hlast]
  · simp only [List.append_assoc]
  · exact List.cons_ne_nil t ts

/-- Items between marks spell a value if it is read from the items with blanks around them. -/
theorem isSpelling_enclosed {opening closing : CodePoint} (hopening : Opens [opening])
    {depth : Nat} {t : Text} {ts : List Text} {v : Value}
    (h : ∀ (first gap last : Gap) (fuel : Nat) (rest : Text),
      2 * (Text.joinWith (.char ',' :: gap.blanks) (t :: ts)).length < fuel →
      value (fuel + 1) (opening :: (first.blanks
        ++ (Text.joinWith (.char ',' :: gap.blanks) (t :: ts)
          ++ (last.blanks ++ closing :: rest)))) = .ok (v, rest)) :
    IsSpelling (enclosed layout depth [opening] [closing] (t :: ts)) v := by
  obtain ⟨first, gap, last, heq⟩ := exists_enclosed_eq hl depth [opening] [closing] t ts
  rw [heq]
  refine ⟨hopening.append _, fun {fuel rest} hfuel _ => ?_⟩
  obtain ⟨k, rfl⟩ := (hopening.append _).exists_fuel hfuel
  simp only [List.length_append, List.length_singleton] at hfuel
  simp only [List.append_assoc]
  exact h first gap last k rest (by omega)

/-- An array is spelled by its items. -/
theorem isSpelling_list {depth : Nat} {ts : List Text} {vs : List Value}
    (h : List.Forall₂ IsSpelling ts vs) :
    IsSpelling (enclosed layout depth "[" "]" ts) (.list vs) := by
  cases h with
  | nil =>
    refine ⟨⟨_, _, rfl, by decide⟩, fun {fuel rest} hfuel _ => ?_⟩
    obtain ⟨k, rfl⟩ := Nat.exists_eq_add_of_le' hfuel
    rfl
  | @cons t v ts vs ht hts =>
    refine isSpelling_enclosed hl ⟨_, _, rfl, by decide⟩ fun first gap last fuel rest hlt => ?_
    exact value_array ((opens_joinWith ht.opens ts).append _) first
      (arrayItems_joinWith gap last (.cons ht hts) (List.cons_ne_nil t ts) rest hlt)

/-- An object is spelled by its entries; a name that occurs twice keeps its last value. -/
theorem isSpelling_object {depth : Nat} {ts : List Text} {fields : Fields}
    (h : List.Forall₂ IsEntrySpelling ts fields) :
    IsSpelling (enclosed layout depth "\x7b" "\x7d" ts) (.dict (dictOf fields.entries)) := by
  cases h with
  | nil =>
    refine ⟨⟨_, _, rfl, by decide⟩, fun {fuel rest} hfuel _ => ?_⟩
    obtain ⟨k, rfl⟩ := Nat.exists_eq_add_of_le' hfuel
    rfl
  | @cons t f ts fs ht hts =>
    refine isSpelling_enclosed hl ⟨_, _, rfl, by decide⟩ fun first gap last fuel rest hlt => ?_
    exact value_object ((opens_joinWith (opens_entry ht) ts).append _) first
      (objectEntries_joinWith gap last (.cons ht hts) (List.cons_ne_nil t ts) rest hlt)

/-- A list is read back item by item. -/
theorem isReadAs_list {depth : Nat} {vs ws : List Value}
    (h : List.Forall₂ (IsReadAs layout (depth + 1)) vs ws) :
    IsReadAs layout depth (.list vs) (.list ws) := by
  obtain ⟨ts, hts, hspell⟩ := exists_writeItems h
  exact ⟨_, by rw [writeAt, hts]; rfl, isSpelling_list hl hspell⟩

/-- A mapping is read back entry by entry; a name that occurs twice keeps its last value. -/
theorem isReadAs_object {depth : Nat} {entries : List (Value × Value)} {fields : Fields}
    (h : List.Forall₂ (IsEntryReadAs layout (depth + 1)) entries fields) :
    IsReadAs layout depth (.dict entries) (.dict (dictOf fields.entries)) := by
  obtain ⟨ts, hts, hspell⟩ := exists_writeEntries h
  exact ⟨_, by rw [writeAt, hts]; rfl, isSpelling_object hl hspell⟩

/-- A mapping is read back entry by entry, if no name occurs twice. -/
theorem isReadAs_dict {depth : Nat} {entries : List (Value × Value)} {fields : Fields}
    (h : List.Forall₂ (IsEntryReadAs layout (depth + 1)) entries fields)
    (hnames : fields.names.Nodup) : IsReadAs layout depth (.dict entries) (.dict fields.entries) := by
  rw [← dictOf_entries hnames]
  exact isReadAs_object hl h

/-- **Data is read back as it is**, at every depth of a layout of blanks. -/
theorem isReadAs_of_isData {v : Value} (h : v.IsData) (depth : Nat) :
    IsReadAs layout depth v v := by
  induction h generalizing depth with
  | null => exact ⟨"null", rfl, isSpelling_null⟩
  | bool b => exact ⟨writeBool b, rfl, isSpelling_writeBool b⟩
  | @int i hi => exact ⟨Text.ofInt i, writeAt_int depth hi, isSpelling_ofInt hi⟩
  | text t => exact ⟨writeText t, rfl, isSpelling_writeText t⟩
  | list _ ih => exact isReadAs_list hl (List.forall₂_same.mpr fun v hv => ih v hv (depth + 1))
  | dict hnames _ ih =>
    refine isReadAs_dict hl ?_ hnames
    exact List.forall₂_map_left_iff.mpr
      (List.forall₂_same.mpr fun f hf => ⟨rfl, ih f hf (depth + 1)⟩)

/-- Named data is read back under the same names. -/
theorem forall₂_isEntryReadAs {fields : Fields} (h : ∀ f ∈ fields, f.2.IsData) (depth : Nat) :
    List.Forall₂ (IsEntryReadAs layout depth) fields.entries fields :=
  List.forall₂_map_left_iff.mpr
    (List.forall₂_same.mpr fun f hf => ⟨rfl, isReadAs_of_isData hl (h f hf) depth⟩)

/-- **Data reads back from its JSON document.** -/
theorem exists_write {v : Value} (h : v.IsData) : ∃ t, write layout v = .ok t ∧ read t = .ok v := by
  obtain ⟨t, ht, hspell⟩ := isReadAs_of_isData hl h 0
  exact ⟨t, ht, hspell.read_eq⟩

theorem read_of_write {v : Value} (h : v.IsData) {t : Text} (ht : write layout v = .ok t) :
    read t = .ok v := by
  obtain ⟨t', ht', hread⟩ := exists_write hl h
  obtain rfl : t' = t := Except.ok.inj (ht'.symm.trans ht)
  exact hread

end Layout

end Json

end RichText
