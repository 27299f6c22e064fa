import RichText.FileSystem

/-!
# FileSystem/Resolve — paths without links

The names from the root that a path leads to once every link on it is followed.  Names that lead
nowhere are kept as they are, so a path may be resolved before anything is stored at it; `..` behind
such a name takes it away again.  On a cycle of links the rest of the path is kept unresolved.
-/

namespace RichText.FileSystem

/-- Links met so far with the names they lead to, or nothing while that is being found out. -/
abbrev Seen := List (List Text × Option (List Text))

/-- Where a path leads: its names, whether no cycle was met, and the links seen on the way. -/
structure Resolution where
  names : List Text
  complete : Bool
  seen : Seen

/-- The names of a place and the rest of a path behind it; a rest that begins with a slash is a path
from the root. -/
def withRest (place rest : List Text) : List Text :=
  match rest with
  | [] :: _ :: _ => rest
  | _ => place ++ rest

/-- Resolve names from a directory.  Every link is entered at most once, so a `budget` above the
number of links is never used up. -/
def resolveNames (root : Entry) (budget : Nat) (seen : Seen) (here rest : List Text) : Resolution :=
  match rest with
  | [] => ⟨here, true, seen⟩
  | n :: more =>
    if n.isEmpty || n == [.char '.'] then resolveNames root budget seen here more
    else if n == [.char '.', .char '.'] then resolveNames root budget seen here.dropLast more
    else
      let place := here ++ [n]
      match root.at? place with
      | some (.link target) =>
        match seen.find? (·.1 == place) with
        | some (_, some names) => resolveNames root budget seen names more
        | some (_, none) => ⟨withRest place more, false, seen⟩
        | none =>
          match budget with
          | 0 => ⟨withRest place more, false, seen⟩
          | budget + 1 =>
            let start := if target.head? == some (.char '/') then [] else here
            let inner := resolveNames root budget ((place, none) :: seen) start
              (List.splitOn (.char '/') target)
            if inner.complete then
              resolveNames root budget ((place, some inner.names) :: inner.seen) inner.names more
            else ⟨withRest inner.names more, false, inner.seen⟩
      | _ => resolveNames root budget seen place more
termination_by (budget, rest.length)

/-- Names with single dots dropped and every `..` taken against the name before it. -/
def normalNames (names : List Text) : List Text :=
  names.foldl (fun done n =>
    if n.isEmpty || n == [.char '.'] then done
    else if n == [.char '.', .char '.'] then done.dropLast
    else done ++ [n]) []

mutual

/-- The number of links below an entry. -/
def linkCount : Entry → Nat
  | .file _ => 0
  | .link _ => 1
  | .directory entries => linkCountAll entries

/-- The number of links below named entries. -/
def linkCountAll : List (Text × Entry) → Nat
  | [] => 0
  | (_, e) :: rest => linkCount e + linkCountAll rest

end

/-- The path from the root that a path leads to. -/
def resolved (fs : FileSystem) (p : Path) : Path :=
  let start := if p.isAbsolute then [] else fs.workingDirectory
  ⟨"/", normalNames (resolveNames fs.root (linkCount fs.root + 1) [] start p.names).names⟩

/-- The path from the root that a path leads to, unless its way runs in a cycle of links. -/
def resolve (fs : FileSystem) (p : Path) : Except FileError Path :=
  let q := fs.resolved p
  match fs.stat q.text with
  | .error ⟨.linkLoop, path⟩ => .error ⟨.linkLoop, path⟩
  | _ => .ok q

end RichText.FileSystem
