import RichText.Number.Shortest
import RichText.Text.Quoted
import RichText.Calendar

/-!
# Value — data of any shape

What node fields, attributes, metadata, front matter and JSON documents hold: scalars, lists, sets
and mappings in the order their keys were first written.  Numbers, truth values and floats compare
by their numeric value, also as keys.
-/

namespace RichText

/-- **Data of any shape.** -/
inductive Value
  | null
  | bool (b : Bool)
  | int (i : Int)
  | float (x : Binary64)
  | text (t : Text)
  | bytes (b : List UInt8)
  | list (items : List Value)
  | dict (entries : List (Value × Value))
  | set (items : List Value)
  | date (d : Date)
  | moment (m : Moment)
  /-- The list or mapping that this place is inside of. -/
  | around (isMapping : Bool)
  deriving Inhabited

namespace Value

instance : Coe String Value := ⟨fun s => .text s⟩

/-- The name of a value's type, as messages give it. -/
def typeName : Value → Text
  | null => "NoneType"
  | bool _ => "bool"
  | int _ => "int"
  | float _ => "float"
  | text _ => "str"
  | bytes _ => "bytes"
  | list _ => "list"
  | dict _ => "dict"
  | set _ => "set"
  | date _ => "date"
  | moment _ => "datetime"
  | around isMapping => if isMapping then "dict" else "list"

/-- Neither null, false, zero nor empty. -/
def truthy : Value → Bool
  | null => false
  | bool b => b
  | int i => i != 0
  | float x => !x.isZero
  | text t => !t.isEmpty
  | bytes b => !b.isEmpty
  | list items => !items.isEmpty
  | dict entries => !entries.isEmpty
  | set items => !items.isEmpty
  | date _ => true
  | moment _ => true
  | around _ => true

def isNull : Value → Bool
  | null => true
  | _ => false

/-- The text of a text value. -/
def text? : Value → Option Text
  | text t => some t
  | _ => none

/-- The integer of an integer or of a truth value, which counts as one or zero. -/
def int? : Value → Option Int
  | int i => some i
  | bool b => some (if b then 1 else 0)
  | _ => none

/-! ## Equality -/

/-- Equality of two values that are numbers of any type. -/
def numEq (v w : Value) : Bool :=
  match v.int?, w.int? with
  | some i, some j => i == j
  | some i, none => match w with
    | float y => y.eqInt i
    | _ => false
  | none, some j => match v with
    | float x => x.eqInt j
    | _ => false
  | none, none => match v, w with
    | float x, float y => x.numEq y
    | _, _ => false

/- Lists are equal item by item, mappings when equal keys hold equal values in any order, and sets
when they have the same items. -/
mutual

/-- Equality of values: numbers by numeric value, everything else by type and content. -/
def same : Value → Value → Bool
  | null, null => true
  | text s, text t => s == t
  | bytes a, bytes b => a == b
  | list xs, list ys => sameList xs ys
  | dict xs, dict ys => xs.length == ys.length && subDict xs ys
  | set xs, set ys => xs.length == ys.length && subset xs ys
  | date a, date b => a == b
  | moment a, moment b => a == b
  | v, w => numEq v w

/-- Equality of two lists, item by item. -/
def sameList : List Value → List Value → Bool
  | [], [] => true
  | x :: xs, y :: ys => same x y && sameList xs ys
  | _, _ => false

/-- Every key of the first mapping holds an equal value in the second. -/
def subDict : List (Value × Value) → List (Value × Value) → Bool
  | [], _ => true
  | (k, v) :: rest, ys => ys.any (fun (k', v') => same k k' && same v v') && subDict rest ys

/-- Every item of the first set is in the second. -/
def subset : List Value → List Value → Bool
  | [], _ => true
  | x :: xs, ys => ys.any (fun y => same x y) && subset xs ys

end

instance : BEq Value := ⟨same⟩

/-! ## Mappings -/

/-- The value an equal key holds. -/
def find? (key : Value) : List (Value × Value) → Option Value
  | [] => none
  | (k, v) :: rest => if same k key then some v else find? key rest

/-- The value the text `name` holds as a key. -/
def field? (name : Text) : List (Value × Value) → Option Value
  | [] => none
  | (text k, v) :: rest => if k = name then some v else field? name rest
  | _ :: rest => field? name rest

/-- Store a value under a key: at the place of an equal key, or at the end. -/
def insert (key value : Value) : List (Value × Value) → List (Value × Value)
  | [] => [(key, value)]
  | (k, v) :: rest => if same k key then (k, value) :: rest else (k, v) :: insert key value rest

/-- The mapping without a key. -/
def erase (key : Value) (entries : List (Value × Value)) : List (Value × Value) :=
  entries.filter fun e => !same e.1 key

end Value

end RichText
