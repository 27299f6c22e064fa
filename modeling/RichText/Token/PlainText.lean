import RichText.Value.Entries

/-!
# Token/PlainText — the plain text of inline tokens

A token is a mapping with a type.  Text and code spans give what they hold, breaks give a blank, and
every other token gives what its children give.  `Token.flatten` says so by recursion; `Token.collect`
goes through the tokens that are still to come, with the children of a token in front of the rest.
-/

namespace RichText.Token

/-- What one token adds to a plain text, if it is one that adds something itself. -/
inductive Piece
  | own (v : Value)
  | nested (tokens : List Value)

/-- Whether a type is one of given ones; a type that cannot be a key is refused. -/
def isOneOf (names : List Text) (type : Value) : Except Failure Bool :=
  if type.isKey then .ok (names.any fun n => type.same (.text n)) else .error .misuse

/-- The piece of a token. -/
def piece (entries : List (Value × Value)) : Except Failure Piece := do
  let type := (Value.field? "type" entries).getD .null
  if ← isOneOf ["text", "codespan"] type then
    return .own ((Value.field? "raw" entries).getD (.text []))
  else if ← isOneOf ["softbreak", "linebreak"] type then return .own (.text " ")
  else match Value.field? "children" entries with
    | some (.list items) => return .nested items
    | _ => return .nested []

/-- The texts of a list of pieces, one after the other. -/
def join : List Value → Except Failure Text
  | [] => .ok []
  | .text t :: rest => (join rest).map (t ++ ·)
  | _ :: _ => .error .misuse

theorem sizeOf_append (xs ys : List Value) :
    sizeOf (xs ++ ys) + 1 = sizeOf xs + sizeOf ys := by
  induction xs with
  | nil => simp only [List.nil_append, List.nil.sizeOf_spec]; omega
  | cons x xs ih => simp only [List.cons_append, List.cons.sizeOf_spec]; omega

/-- Only children that come with a token are nested in it. -/
theorem sizeOf_nested {entries : List (Value × Value)} {items : List Value}
    (h : piece entries = .ok (.nested items)) : sizeOf items ≤ sizeOf entries := by
  have hn : 1 ≤ sizeOf entries := by
    cases entries with
    | nil => simp
    | cons e rest => simp only [List.cons.sizeOf_spec]; omega
  simp only [piece, bind, Except.bind] at h
  split at h
  · cases h
  · split at h
    · cases h
    · split at h
      · cases h
      · split at h
        · cases h
        · split at h
          · next hf =>
            cases h
            have := Value.sizeOf_field? hf
            simp only [Value.list.sizeOf_spec] at this
            omega
          · cases h
            simpa using hn

/-! ## By recursion -/

/-- **The pieces of a list of tokens**, those of nested tokens in their place. -/
def flatten (tokens : List Value) : Except Failure (List Value) :=
  match tokens with
  | [] => .ok []
  | .dict entries :: rest => do
    match h : piece entries with
    | .error e => .error e
    | .ok (.own v) => return v :: (← flatten rest)
    | .ok (.nested items) =>
      have := sizeOf_nested h
      let inner ← flatten items
      return inner ++ (← flatten rest)
  | _ :: rest => flatten rest
termination_by sizeOf tokens
decreasing_by
  all_goals simp only [List.cons.sizeOf_spec, Value.dict.sizeOf_spec]; omega

/-! ## By what is still to come -/

/-- The pieces of the tokens that are still to come, after those found before, last one first. -/
def collect (found pending : List Value) : Except Failure (List Value) :=
  match pending with
  | [] => .ok found.reverse
  | .dict entries :: rest =>
    match h : piece entries with
    | .error e => .error e
    | .ok (.own v) => collect (v :: found) rest
    | .ok (.nested items) =>
      have := sizeOf_nested h
      have := sizeOf_append items rest
      collect found (items ++ rest)
  | _ :: rest => collect found rest
termination_by sizeOf pending

/-- **The plain text of tokens**; a value that is no list of them has none. -/
def plainText : Value → Except Failure Text
  | .list tokens => do join (← collect [] tokens)
  | _ => .ok []

end RichText.Token
