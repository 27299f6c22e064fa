import RichText.Proofs.TokenShape

/-!
# Proofs/Sweep — the loop over a stack ends, with the pieces of the recursion

    stack, next token last ──next──▸ one token fewer on it, or those in it instead ──▸ … ──▸ empty

A round takes the top token off the stack and finds a piece in it, or puts the tokens in it on the
stack, the last one first.  What a stack still gives is what the recursion gives for it from the top
down (`Sweep.after_eq`), and a list is gone through in as many rounds as there are tokens in it, at
any depth (`count`).  `collect` keeps the same stack the other way round (`collect_eq_flatten`).
-/

namespace RichText

namespace Token

variable {entries : List (Value × Value)}

theorem sizeOf_children (entries : List (Value × Value)) :
    sizeOf (children entries) ≤ sizeOf entries := by
  rw [children.eq_def]
  split
  · next items hitems =>
    have := Value.sizeOf_field? hitems
    simp only [Value.list.sizeOf_spec] at this
    omega
  · cases entries with
    | nil => exact Nat.le_refl _
    | cons e rest => simp only [List.nil.sizeOf_spec, List.cons.sizeOf_spec]; omega

/-! ## Pieces -/

/-- The types of tokens that say a blank, whatever they hold. -/
def breakTypes : List Text := ["softbreak", "linebreak"]

/-- Whether the type of a token can be looked up. -/
def hasKey (entries : List (Value × Value)) : Bool := (fieldOr "type" .null entries).isKey

/-- A type that can be looked up is one of given ones by its name. -/
theorem isOneOf_type {names : List Text} (h : hasKey entries = true) (hnames : [] ∉ names) :
    isOneOf names (fieldOr "type" .null entries) = .ok (decide (typeName entries ∈ names)) := by
  rw [hasKey] at h
  have hiff : (names.any fun n => (fieldOr "type" .null entries).same (.text n)) = true
      ↔ typeName entries ∈ names := by
    refine ⟨fun hany => typeName_mem_of_isOneOf ?_, fun hname => ?_⟩
    · rw [← fieldOr, isOneOf, if_pos h, hany]
    · refine List.any_eq_true.mpr ⟨_, hname, ?_⟩
      have hne : typeName entries ≠ [] := fun heq => hnames (heq ▸ hname)
      rw [typeName] at hne ⊢
      rw [fieldOr]
      cases hv : Value.field? "type" entries with
      | none => simp [hv] at hne
      | some v => cases v <;> simp_all [Value.text?, Value.same]
  rw [isOneOf, if_pos h, Bool.eq_iff_iff.mpr (hiff.trans decide_eq_true_iff.symm)]

/-- **The piece of a token whose type can be looked up.** -/
theorem piece_of_hasKey (h : hasKey entries = true) :
    piece entries = .ok (
      if typeName entries ∈ textTypes then .own (fieldOr "raw" (.text []) entries)
      else if typeName entries ∈ breakTypes then .own (.text " ")
      else .nested (children entries)) := by
  have htext : isOneOf ["text", "codespan"] ((Value.field? "type" entries).getD .null)
      = .ok (decide (typeName entries ∈ textTypes)) := isOneOf_type h (by decide)
  have hbreak : isOneOf ["softbreak", "linebreak"] ((Value.field? "type" entries).getD .null)
      = .ok (decide (typeName entries ∈ breakTypes)) := isOneOf_type h (by decide)
  rw [piece, htext, hbreak]
  by_cases hname : typeName entries ∈ textTypes
  · simp only [hname, if_true]
    rfl
  by_cases hname' : typeName entries ∈ breakTypes
  · simp only [hname, hname', if_true, if_false]
    rfl
  simp only [hname, hname', if_false, decide_false, bind, Except.bind, pure, Except.pure,
    Bool.false_eq_true]
  split
  · next hitems => rw [children_of_list hitems]
  · next hnone => rw [children_of_no_list hnone]

/-- A type that cannot be looked up is refused. -/
theorem piece_of_not_hasKey (h : hasKey entries = false) : piece entries = .error .misuse := by
  rw [hasKey, fieldOr] at h
  rw [piece, isOneOf, h]
  rfl

/-- The tokens nested in a token are those in it. -/
theorem eq_children_of_piece {items : List Value} (h : piece entries = .ok (.nested items)) :
    items = children entries := by
  cases hkey : hasKey entries with
  | false => exact nomatch h.symm.trans (piece_of_not_hasKey hkey)
  | true =>
    rw [piece_of_hasKey hkey] at h
    split at h
    · cases h
    split at h
    · cases h
    · cases h
      rfl

/-! ## By recursion -/

theorem dict_or_not (v : Value) :
    (∃ entries, v = .dict entries) ∨ ∀ entries, v ≠ .dict entries := by
  cases v with
  | dict entries => exact .inl ⟨entries, rfl⟩
  | _ =>
    right
    rintro _ ⟨⟩

variable {found rest items : List Value} {v : Value} {e : Failure}

theorem flatten_nil : flatten [] = pure [] := by rw [flatten]; rfl

theorem flatten_of_error (h : piece entries = .error e) :
    flatten (.dict entries :: rest) = .error e := by
  rw [flatten]
  split <;> simp_all

theorem flatten_own (h : piece entries = .ok (.own v)) :
    flatten (.dict entries :: rest) = (do return v :: (← flatten rest)) := by
  rw [flatten]
  split <;> simp_all

/-- Tokens in a token come where the token stands. -/
theorem flatten_nested (h : piece entries = .ok (.nested items)) :
    flatten (.dict entries :: rest) = (do return (← flatten items) ++ (← flatten rest)) := by
  rw [flatten]
  split <;> simp_all

theorem flatten_of_not_dict (h : ∀ entries, v ≠ .dict entries) :
    flatten (v :: rest) = flatten rest := by
  rw [flatten]
  exact h

/-- The pieces of tokens are found one token after the other. -/
theorem flatten_append (xs ys : List Value) :
    flatten (xs ++ ys) = (do return (← flatten xs) ++ (← flatten ys)) := by
  induction xs with
  | nil => simp [flatten_nil]
  | cons v rest ih =>
    rw [List.cons_append]
    obtain ⟨entries, rfl⟩ | hv := dict_or_not v
    · cases hp : piece entries with
      | error e => rw [flatten_of_error hp, flatten_of_error hp]; rfl
      | ok p =>
        cases p with
        | own v => simp only [flatten_own hp, ih, bind_assoc, pure_bind, List.cons_append]
        | nested items =>
          simp only [flatten_nested hp, ih, bind_assoc, pure_bind, List.append_assoc]
    · rw [flatten_of_not_dict hv, flatten_of_not_dict hv, ih]

/-- **The tokens that are still to come give what the recursion gives for them**, behind the pieces
found before. -/
theorem collect_eq_flatten (found pending : List Value) :
    collect found pending = (do return found.reverse ++ (← flatten pending)) := by
  induction found, pending using collect.induct with
  | case1 found =>
    rw [collect, flatten_nil, pure_bind, List.append_nil]
    rfl
  | case2 found entries rest e he =>
    rw [flatten_of_error he, collect]
    split <;> simp_all
  | case3 found entries rest v hv ih =>
    rw [collect_own hv, flatten_own hv, ih]
    simp only [bind_assoc, pure_bind, List.reverse_cons, List.append_assoc, List.singleton_append]
  | case4 found entries rest items hitems _ _ ih =>
    rw [collect_nested hitems, flatten_nested hitems, ih, flatten_append]
  | case5 found v rest hv ih =>
    rw [collect, flatten_of_not_dict hv, ih]
    exact hv

/-! ## By rounds -/

/-- **A sweep between two rounds**: the pieces found, and the tokens still to come, the next one
last. -/
structure Sweep where
  found : List Value
  stack : List Value

namespace Sweep

/-- One round, of the token on top of the stack; without one nothing changes any more. -/
def next (s : Sweep) : Except Failure Sweep :=
  match s.stack.getLast? with
  | none => .ok s
  | some (.dict entries) => do
    match ← piece entries with
    | .own v => return ⟨s.found ++ [v], s.stack.dropLast⟩
    | .nested items => return ⟨s.found, s.stack.dropLast ++ items.reverse⟩
  | some _ => .ok ⟨s.found, s.stack.dropLast⟩

/-- A number of rounds. -/
def after : Nat → Sweep → Except Failure Sweep
  | 0, s => .ok s
  | n + 1, s => s.next >>= after n

end Sweep

/-- The number of tokens in a list, at any depth. -/
def count (tokens : List Value) : Nat :=
  match tokens with
  | [] => 0
  | .dict entries :: rest =>
    have := sizeOf_children entries
    1 + count (children entries) + count rest
  | _ :: rest => 1 + count rest
termination_by sizeOf tokens
decreasing_by
  all_goals simp only [List.cons.sizeOf_spec, Value.dict.sizeOf_spec]; omega

theorem count_of_not_dict (h : ∀ entries, v ≠ .dict entries) :
    count (v :: rest) = 1 + count rest := by
  rw [count]
  exact h

theorem count_lt_cons (v : Value) (rest : List Value) : count rest < count (v :: rest) := by
  obtain ⟨entries, rfl⟩ | hv := dict_or_not v
  · rw [count]
    omega
  · rw [count_of_not_dict hv]
    omega

/-- Tokens in a row hold what each of them holds. -/
theorem count_append (xs ys : List Value) : count (xs ++ ys) = count xs + count ys := by
  induction xs with
  | nil => rw [List.nil_append, count, Nat.zero_add]
  | cons v rest ih =>
    rw [List.cons_append]
    obtain ⟨entries, rfl⟩ | hv := dict_or_not v
    · rw [count, count, ih]
      omega
    · rw [count_of_not_dict hv, count_of_not_dict hv, ih, Nat.add_assoc]

namespace Sweep

theorem next_nil : next ⟨found, []⟩ = .ok ⟨found, []⟩ := rfl

theorem next_of_error (h : piece entries = .error e) :
    next ⟨found, (.dict entries :: rest).reverse⟩ = .error e := by
  simp [next, h, bind, Except.bind]

theorem next_own (h : piece entries = .ok (.own v)) :
    next ⟨found, (.dict entries :: rest).reverse⟩ = .ok ⟨found ++ [v], rest.reverse⟩ := by
  simp [next, h, bind, Except.bind, pure, Except.pure]

/-- Tokens in a token are put in front of those that are left. -/
theorem next_nested (h : piece entries = .ok (.nested items)) :
    next ⟨found, (.dict entries :: rest).reverse⟩ = .ok ⟨found, (items ++ rest).reverse⟩ := by
  simp [next, h, bind, Except.bind, pure, Except.pure]

theorem next_of_not_dict (h : ∀ entries, v ≠ .dict entries) :
    next ⟨found, (v :: rest).reverse⟩ = .ok ⟨found, rest.reverse⟩ := by
  cases v with
  | dict entries => exact absurd rfl (h entries)
  | _ => simp [next]

/-- **The loop ends**, with what the recursion gives: as many rounds as there are tokens are
enough. -/
theorem after_eq {n : Nat} {found pending : List Value} (h : count pending ≤ n) :
    after n ⟨found, pending.reverse⟩ = (do return ⟨found ++ (← flatten pending), []⟩) := by
  induction n generalizing found pending with
  | zero =>
    cases pending with
    | nil =>
      rw [List.reverse_nil, after, flatten_nil, pure_bind, List.append_nil]
      rfl
    | cons v rest => exact absurd (count_lt_cons v rest) (by omega)
  | succ n ih =>
    cases pending with
    | nil =>
      -- A round on an empty stack changes nothing, so spare rounds do no harm.
      rw [List.reverse_nil, after, next_nil]
      exact ih (by rw [count]; exact Nat.zero_le n)
    | cons v rest =>
      have hrest : count rest ≤ n := by
        have := count_lt_cons v rest
        omega
      rw [after]
      obtain ⟨entries, rfl⟩ | hv := dict_or_not v
      · cases hp : piece entries with
        | error e =>
          rw [next_of_error hp, flatten_of_error hp]
          rfl
        | ok p =>
          cases p with
          | own v =>
            rw [next_own hp, flatten_own hp]
            refine (ih hrest).trans ?_
            simp only [bind_assoc, pure_bind, List.append_assoc, List.singleton_append]
          | nested items =>
            have hitems : count (items ++ rest) ≤ n := by
              rw [count, ← eq_children_of_piece hp] at h
              rw [count_append]
              omega
            rw [next_nested hp, flatten_nested hp, ← flatten_append]
            exact ih hitems
      · rw [next_of_not_dict hv, flatten_of_not_dict hv]
        exact ih hrest

end Sweep

end Token

end RichText
