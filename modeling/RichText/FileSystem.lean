import RichText.FileSystem.Path
import RichText.Text.Quoted
import RichText.Text.Utf8

/-!
# FileSystem — directories, files and symbolic links

A file system is a tree of named entries and a working directory.  `FileSystem.walk` follows a path
name by name, through the links it meets; `FileSystem.resolve` gives the path without links that a
path leads to, also where nothing is stored.
-/

namespace RichText

/-- **An entry of a file system.** -/
inductive Entry
  | file (content : List UInt8)
  | link (target : Text)
  | directory (entries : List (Text × Entry))
  deriving Inhabited

/-- Why a path leads to no file, or a file or a stream cannot be used. -/
inductive FileProblem
  | notFound
  | notDirectory
  | isDirectory
  | nameTooLong
  | linkLoop
  /-- Whatever else the operating system reports, by its number. -/
  | other (number : Nat) (wording : Text)
  deriving DecidableEq

/-- A problem and the path it was met on. -/
structure FileError where
  problem : FileProblem
  path : Text
  deriving DecidableEq

namespace FileProblem

/-- The number of a problem. -/
def number : FileProblem → Nat
  | notFound => 2
  | notDirectory => 20
  | isDirectory => 21
  | nameTooLong => 36
  | linkLoop => 40
  | other number _ => number

/-- The wording of a problem. -/
def wording : FileProblem → Text
  | notFound => "No such file or directory"
  | notDirectory => "Not a directory"
  | isDirectory => "Is a directory"
  | nameTooLong => "File name too long"
  | linkLoop => "Too many levels of symbolic links"
  | other _ wording => wording

/-- The name of a problem in messages. -/
def name : FileProblem → Text
  | notFound => "FileNotFoundError"
  | notDirectory => "NotADirectoryError"
  | isDirectory => "IsADirectoryError"
  | nameTooLong => "OSError"
  | linkLoop => "OSError"
  | other _ _ => "OSError"

end FileProblem

namespace FileError

/-- A problem with its path. -/
def message (e : FileError) : Text :=
  "[Errno " ++ Text.ofNat e.problem.number ++ "] " ++ e.problem.wording ++ ": " ++ e.path.quoted

/-- A problem with its name and number. -/
def quoted (e : FileError) : Text :=
  e.problem.name ++ "(" ++ Text.ofNat e.problem.number ++ ", " ++ e.problem.wording.quoted ++ ")"

end FileError

namespace Entry

/-- The entry a directory holds under a name. -/
def child? (e : Entry) (name : Text) : Option Entry :=
  match e with
  | directory entries => (entries.find? (·.1 == name)).map (·.2)
  | _ => none

/-- The entry at a path of names below an entry. -/
def at? (e : Entry) : List Text → Option Entry
  | [] => some e
  | n :: rest => match e.child? n with
    | some c => c.at? rest
    | none => none

/-- Put an entry under a name, or take the name away. -/
def setName (name : Text) (e : Option Entry) (entries : List (Text × Entry)) : List (Text × Entry) :=
  match e with
  | none => entries.filter (·.1 != name)
  | some e =>
    if entries.any (·.1 == name) then entries.map fun x => if x.1 == name then (name, e) else x
    else entries ++ [(name, e)]

/-- Put an entry at a path of names, or take the path away.  Directories missing on the way are
made. -/
def set (root : Entry) (names : List Text) (e : Option Entry) : Entry :=
  match names with
  | [] => root
  | [n] => match root with
    | directory entries => directory (setName n e entries)
    | other => other
  | n :: rest => match root with
    | directory entries =>
      directory (setName n (some (((root.child? n).getD (directory [])).set rest e)) entries)
    | other => other

end Entry

/-- **A file system**: everything below its root, and the names of the working directory. -/
structure FileSystem where
  root : Entry
  workingDirectory : List Text
  deriving Inhabited

namespace FileSystem

/-- The most bytes a name may have. -/
def nameLimit : Nat := 255

/-- The most bytes a path may have. -/
def pathLimit : Nat := 4095

/-- The most links followed on the way along one path. -/
def linkLimit : Nat := 40

/-- The bytes a name takes up; a lone half of a surrogate pair stands for one byte. -/
def byteLength (t : Text) : Nat :=
  t.foldl (fun n c => n + ((c.utf8?).map List.length).getD 1) 0

/-- Follow names from a directory.  The answer is the names of the place reached and its entry, or no
entry where only the last name is missing.  A link at the end is followed if `follow` says so. -/
def walk (root : Entry) (follow : Bool) (budget : Nat) (here rest : List Text) :
    Except FileProblem (List Text × Option Entry) :=
  match rest with
  | [] => .ok (here, root.at? here)
  | n :: more =>
    match root.at? here with
    | none => .error .notFound
    | some (.directory entries) =>
      if n.isEmpty || n == [.char '.'] then walk root follow budget here more
      else if n == [.char '.', .char '.'] then walk root follow budget here.dropLast more
      else if byteLength n > nameLimit then .error .nameTooLong
      else match (Entry.directory entries).child? n with
        | none => if more.isEmpty then .ok (here ++ [n], none) else .error .notFound
        | some (.link target) =>
          if more.isEmpty && !follow then .ok (here ++ [n], some (.link target))
          else match budget with
            | 0 => .error .linkLoop
            | budget + 1 =>
              let start := if target.head? == some (.char '/') then [] else here
              walk root follow budget start (List.splitOn (.char '/') target ++ more)
        | some _ => walk root follow budget (here ++ [n]) more
    | some _ => .error .notDirectory
termination_by (budget, rest.length)

/-- Follow a path from the root or from the working directory. -/
def follow (fs : FileSystem) (throughLast : Bool) (path : Text) :
    Except FileError (List Text × Option Entry) :=
  let fail (problem : FileProblem) : Except FileError (List Text × Option Entry) :=
    .error ⟨problem, path⟩
  if path.isEmpty then fail .notFound
  else if byteLength path > pathLimit then fail .nameTooLong
  else
    let start := if path.head? == some (.char '/') then [] else fs.workingDirectory
    match walk fs.root throughLast linkLimit start (List.splitOn (.char '/') path) with
    | .ok found => .ok found
    | .error problem => fail problem

/-- The entry a path leads to. -/
def stat (fs : FileSystem) (path : Text) : Except FileError Entry :=
  match fs.follow true path with
  | .ok (_, some e) => .ok e
  | .ok (_, none) => .error ⟨.notFound, path⟩
  | .error e => .error e

/-- The content of the file a path leads to. -/
def content (fs : FileSystem) (path : Text) : Except FileError (List UInt8) :=
  match fs.stat path with
  | .ok (.file content) => .ok content
  | .ok _ => .error ⟨.isDirectory, path⟩
  | .error e => .error e

/-- The size an entry reports; a directory takes up one block. -/
def reportedSize : Entry → Nat
  | .file content => content.length
  | .link target => byteLength target
  | .directory _ => 4096

/-- The file system with a file of a content at a path. -/
def put (fs : FileSystem) (path : Text) (content : List UInt8) :
    Except FileError FileSystem :=
  match fs.follow true path with
  | .ok (_, some (.directory _)) => .error ⟨.isDirectory, path⟩
  | .ok (names, _) => .ok { fs with root := fs.root.set names (some (.file content)) }
  | .error e => .error e

/-- The file system without the file or link at a path. -/
def remove (fs : FileSystem) (path : Text) : Except FileError FileSystem :=
  match fs.follow false path with
  | .ok (_, none) => .error ⟨.notFound, path⟩
  | .ok (_, some (.directory _)) => .error ⟨.isDirectory, path⟩
  | .ok (names, _) => .ok { fs with root := fs.root.set names none }
  | .error e => .error e

/-- The file system with an entry at a path, and with the directories that lead there. -/
def install (fs : FileSystem) (path : Text) (e : Entry) : FileSystem :=
  let p := Path.ofText path
  let start := if p.isAbsolute then [] else fs.workingDirectory
  let parent := match walk fs.root true linkLimit start p.names.dropLast with
    | .ok (names, _) => names
    | .error _ => start ++ p.names.dropLast
  let names := parent ++ p.names.getLast?.toList
  match e, fs.root.at? names with
  | .directory [], some _ => fs
  | e, _ => { fs with root := fs.root.set names (some e) }

end FileSystem

end RichText
