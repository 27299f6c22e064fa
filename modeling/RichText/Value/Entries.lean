import RichText.Failure

/-!
# Value/Entries — values gone through, and values as mappings

`Value.items?` gives the items of a value that can be gone through, and `Value.toEntries` the entries
of a mapping or of a sequence of pairs.
-/

namespace RichText.Value

/-- The items a value gives when it is gone through; some values have none to give. -/
def items? : Value → Option (List Value)
  | .list items => some items
  | .set items => some items
  | .text t => some (t.map fun c => .text [c])
  | .bytes b => some (b.map fun x => .int x.toNat)
  | .dict entries => some (entries.map (·.1))
  | _ => none

/-- Whether a value can be a key: lists, mappings and sets cannot. -/
def isKey : Value → Bool
  | .list _ => false
  | .dict _ => false
  | .set _ => false
  | .around _ => false
  | _ => true

/-- The pair an item of a sequence of pairs is; `place` is its place in the sequence. -/
def toPair (place : Nat) (v : Value) : Except Failure (Value × Value) :=
  match v.items? with
  | none => .error .misuse
  | some [k, x] => if k.isKey then .ok (k, x) else .error .misuse
  | some items => .error (.invalid (.updateLength place items.length))

/-- The pairs of a sequence from a place on, each stored under its key. -/
def insertPairs (entries : List (Value × Value)) (place : Nat) :
    List Value → Except Failure (List (Value × Value))
  | [] => .ok entries
  | v :: rest => do
    let (k, x) ← toPair place v
    insertPairs (insert k x entries) (place + 1) rest

/-- **The entries of a mapping or of a sequence of pairs.** -/
def toEntries : Value → Except Failure (List (Value × Value))
  | .dict entries => .ok entries
  | v => match v.items? with
    | none => .error .misuse
    | some items => insertPairs [] 0 items

@[simp] theorem toEntries_dict (entries : List (Value × Value)) :
    toEntries (.dict entries) = .ok entries := rfl

theorem sizeOf_field? {name : RichText.Text} {v : Value} {entries : List (Value × Value)}
    (h : field? name entries = some v) : sizeOf v < sizeOf entries := by
  induction entries with
  | nil => cases h
  | cons e rest ih =>
    obtain ⟨k, x⟩ := e
    have hrest : field? name rest = some v → sizeOf v < sizeOf ((k, x) :: rest) := fun h => by
      have := ih h
      simp only [List.cons.sizeOf_spec]
      omega
    cases k with
    | text t =>
      by_cases hn : t = name
      · rw [field?, if_pos hn, Option.some.injEq] at h
        subst h
        simp only [List.cons.sizeOf_spec, Prod.mk.sizeOf_spec]
        omega
      · rw [field?, if_neg hn] at h
        exact hrest h
    | _ => exact hrest h

end RichText.Value
