import RichText.Proofs.JsonFloat

/-!
# Proofs/JsonForm — which values have a JSON document

    null, truth values, short integers, floats, texts          themselves, also as keys
    lists, mappings                                             where all they hold has a form
    bytes, sets, dates, moments, a list inside of itself        none

A value is written just where it has a document (`exists_writeAt_iff`), and what is written of it is
read back as some value, a mapping as a mapping (`exists_isReadAs_dict`).
-/

namespace RichText

namespace Value

/-- **A scalar of JSON documents**, which may also be a key. -/
inductive IsJsonScalar : Value → Prop
  | null : IsJsonScalar null
  | bool (b : Bool) : IsJsonScalar (bool b)
  | int {i : Int} (h : Text.IsShort i) : IsJsonScalar (int i)
  | float (x : Binary64) : IsJsonScalar (float x)
  | text (t : RichText.Text) : IsJsonScalar (text t)

/-- **A value with a JSON document**: scalars, lists of such values, and mappings of them with scalars
as keys. -/
inductive HasJson : Value → Prop
  | scalar {v : Value} (h : v.IsJsonScalar) : HasJson v
  | list {items : List Value} (h : ∀ v ∈ items, HasJson v) : HasJson (list items)
  | dict {entries : List (Value × Value)} (hkeys : ∀ e ∈ entries, e.1.IsJsonScalar)
    (h : ∀ e ∈ entries, HasJson e.2) : HasJson (dict entries)

end Value

namespace Json

/-! ## Nothing else is written -/

/-- The writer of scalars takes nothing else. -/
theorem isJsonScalar_of_writeScalar {v : Value} {t : Text} (h : writeScalar v = .ok t) :
    v.IsJsonScalar := by
  cases v with
  | null => exact .null
  | bool b => exact .bool b
  | int i =>
    rw [writeScalar, writeInt] at h
    split at h
    · next hi => exact .int hi
    · cases h
  | float x => exact .float x
  | text t => exact .text t
  | _ => cases h

theorem isJsonScalar_of_writeKey {k : Value} {t : Text} (h : writeKey k = .ok t) :
    k.IsJsonScalar := by
  cases k with
  | text t => exact .text t
  | _ =>
    obtain ⟨u, hu, -⟩ := except_bind_eq_ok.mp h
    exact isJsonScalar_of_writeScalar hu

variable {layout : Indent}

mutual

/-- What is written has a form. -/
theorem hasJson_of_writeAt {v : Value} {depth : Nat} {t : Text}
    (h : writeAt layout depth v = .ok t) : v.HasJson := by
  cases v with
  | list items =>
    rw [writeAt] at h
    obtain ⟨ts, hts, -⟩ := except_bind_eq_ok.mp h
    exact .list (hasJson_of_writeItems hts)
  | dict entries =>
    rw [writeAt] at h
    obtain ⟨ts, hts, -⟩ := except_bind_eq_ok.mp h
    obtain ⟨hkeys, hvalues⟩ := hasJson_of_writeEntries hts
    exact .dict hkeys hvalues
  | _ =>
    rw [writeAt] at h
    · exact .scalar (isJsonScalar_of_writeScalar h)
    · nofun
    · nofun

theorem hasJson_of_writeItems {vs : List Value} {depth : Nat} {ts : List Text}
    (h : writeItems layout depth vs = .ok ts) : ∀ v ∈ vs, v.HasJson := by
  match vs with
  | [] => exact List.forall_mem_nil _
  | v :: rest =>
    rw [writeItems] at h
    obtain ⟨first, hfirst, h⟩ := except_bind_eq_ok.mp h
    obtain ⟨others, hothers, -⟩ := except_bind_eq_ok.mp h
    exact List.forall_mem_cons.mpr ⟨hasJson_of_writeAt hfirst, hasJson_of_writeItems hothers⟩

theorem hasJson_of_writeEntries {entries : List (Value × Value)} {depth : Nat} {ts : List Text}
    (h : writeEntries layout depth entries = .ok ts) :
    (∀ e ∈ entries, e.1.IsJsonScalar) ∧ ∀ e ∈ entries, e.2.HasJson := by
  match entries with
  | [] => exact ⟨List.forall_mem_nil _, List.forall_mem_nil _⟩
  | (k, v) :: rest =>
    rw [writeEntries] at h
    obtain ⟨key, hkey, h⟩ := except_bind_eq_ok.mp h
    obtain ⟨value, hvalue, h⟩ := except_bind_eq_ok.mp h
    obtain ⟨others, hothers, -⟩ := except_bind_eq_ok.mp h
    obtain ⟨hkeys, hvalues⟩ := hasJson_of_writeEntries hothers
    exact ⟨List.forall_mem_cons.mpr ⟨isJsonScalar_of_writeKey hkey, hkeys⟩,
      List.forall_mem_cons.mpr ⟨hasJson_of_writeAt hvalue, hvalues⟩⟩

end

/-! ## What has a form is written -/

/-- A scalar is written, and what is written of it is read back. -/
theorem exists_isReadAs_of_isJsonScalar {v : Value} (h : v.IsJsonScalar) (depth : Nat) :
    ∃ w, IsReadAs layout depth v w := by
  cases h with
  | null => exact ⟨_, _, rfl, isSpelling_null⟩
  | bool b => exact ⟨_, _, rfl, isSpelling_writeBool b⟩
  | int hi => exact ⟨_, _, writeAt_int depth hi, isSpelling_ofInt hi⟩
  | float x =>
    obtain ⟨y, hy⟩ := exists_isSpelling_writeFloat x
    exact ⟨_, _, rfl, hy⟩
  | text t => exact ⟨_, _, rfl, isSpelling_writeText t⟩

/-- A scalar that is a key is written as a name. -/
theorem exists_writeKey {k : Value} (h : k.IsJsonScalar) :
    ∃ name, writeKey k = .ok (writeText name) := by
  cases h with
  | @int i hi =>
    have hwrite : writeInt i = .ok (Text.ofInt i) := if_pos hi
    refine ⟨Text.ofInt i, ?_⟩
    rw [writeKey, writeScalar, hwrite]
    · rfl
    · nofun
  | _ => exact ⟨_, rfl⟩

/-- What is related to something item by item is related to a list of such things. -/
theorem exists_forall₂ {α β : Type} {R : α → β → Prop} {as : List α} (h : ∀ a ∈ as, ∃ b, R a b) :
    ∃ bs, List.Forall₂ R as bs := by
  induction as with
  | nil => exact ⟨[], .nil⟩
  | cons a rest ih =>
    obtain ⟨⟨b, hb⟩, hrest⟩ := List.forall_mem_cons.mp h
    obtain ⟨bs, hbs⟩ := ih hrest
    exact ⟨b :: bs, .cons hb hbs⟩

variable (hl : layout.IsBlank)

include hl

/-- A mapping whose values are read back is read back as a mapping. -/
theorem exists_isReadAs_dict {entries : List (Value × Value)} {depth : Nat}
    (hkeys : ∀ e ∈ entries, e.1.IsJsonScalar)
    (h : ∀ e ∈ entries, ∃ w, IsReadAs layout (depth + 1) e.2 w) :
    ∃ read, IsReadAs layout depth (.dict entries) (.dict read) := by
  have hentries : ∀ e ∈ entries, ∃ f, IsEntryReadAs layout (depth + 1) e f := by
    intro e he
    obtain ⟨name, hname⟩ := exists_writeKey (hkeys e he)
    obtain ⟨w, hw⟩ := h e he
    exact ⟨(name, w), hname, hw⟩
  obtain ⟨fields, hfields⟩ := exists_forall₂ hentries
  exact ⟨_, isReadAs_object hl hfields⟩

/-- **A value with a document is read back from it as some value.** -/
theorem exists_isReadAs_of_hasJson {v : Value} (h : v.HasJson) (depth : Nat) :
    ∃ w, IsReadAs layout depth v w := by
  induction h generalizing depth with
  | scalar h => exact exists_isReadAs_of_isJsonScalar h depth
  | list _ ih =>
    obtain ⟨ws, hws⟩ := exists_forall₂ fun v hv => ih v hv (depth + 1)
    exact ⟨_, isReadAs_list hl hws⟩
  | dict hkeys _ ih =>
    obtain ⟨read, hread⟩ := exists_isReadAs_dict hl hkeys fun e he => ih e he (depth + 1)
    exact ⟨_, hread⟩

/-- A mapping with a document is read back from it as a mapping. -/
theorem exists_isReadAs_dict_of_hasJson {entries : List (Value × Value)}
    (h : (Value.dict entries).HasJson) (depth : Nat) :
    ∃ read, IsReadAs layout depth (.dict entries) (.dict read) := by
  cases h with
  | scalar h => cases h
  | dict hkeys hvalues =>
    exact exists_isReadAs_dict hl hkeys fun e he => exists_isReadAs_of_hasJson hl (hvalues e he) _

/-- **A value is written just where it has a document.** -/
theorem exists_writeAt_iff {v : Value} {depth : Nat} :
    (∃ t, writeAt layout depth v = .ok t) ↔ v.HasJson := by
  constructor
  · rintro ⟨t, ht⟩
    exact hasJson_of_writeAt ht
  · intro h
    obtain ⟨-, t, ht, -⟩ := exists_isReadAs_of_hasJson hl h depth
    exact ⟨t, ht⟩

end Json

end RichText
