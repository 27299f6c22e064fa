import RichText.Text

/-!
# FileSystem/Path — paths as text

A path is a root and the names behind it.  Empty names and single dots say nothing and are dropped;
`..` is kept, since what it leads to depends on the links before it.
-/

namespace RichText

/-- A path: its root (nothing, a slash or two slashes) and its names. -/
structure Path where
  root : Text
  names : List Text
  deriving DecidableEq, Inhabited

namespace Path

/-- The names of a path, without those that say nothing. -/
def namesOf (t : Text) : List Text :=
  (List.splitOn (.char '/') t).filter fun n => !n.isEmpty && n != [.char '.']

/-- The path a text spells.  Exactly two slashes in front are a root of their own. -/
def ofText (t : Text) : Path :=
  match t with
  | .char '/' :: .char '/' :: .char '/' :: _ => ⟨"/", namesOf t⟩
  | .char '/' :: .char '/' :: _ => ⟨"//", namesOf t⟩
  | .char '/' :: _ => ⟨"/", namesOf t⟩
  | _ => ⟨"", namesOf t⟩

/-- Names with slashes between them. -/
def joinNames : List Text → Text
  | [] => []
  | [n] => n
  | n :: rest => n ++ "/" ++ joinNames rest

/-- The text of a path; the empty one is a dot. -/
def text (p : Path) : Text :=
  if p.root.isEmpty && p.names.isEmpty then "." else p.root ++ joinNames p.names

/-- A path that starts at the root of the file system. -/
def isAbsolute (p : Path) : Bool := !p.root.isEmpty

/-- The path of a text seen from a directory. -/
def join (p : Path) (t : Text) : Path :=
  let q := ofText t
  if q.isAbsolute then q else ⟨p.root, p.names ++ q.names⟩

/-- The suffix of a name: from its last dot on, unless that is its first or its last code point. -/
def suffixOf (name : Text) : Text :=
  let tail := name.reverse.takeWhile (· ≠ .char '.')
  if tail.isEmpty || name.length ≤ tail.length + 1 then [] else .char '.' :: tail.reverse

/-- The suffix of a path's last name. -/
def suffix (p : Path) : Text :=
  match p.names.getLast? with
  | some name => suffixOf name
  | none => []

end Path

end RichText
