import RichText.FileSystem

/-!
# FileSystem/Way — where paths lead

Names are followed one after the other: a link puts the names of its target in the place of its own.
Names that hold nothing are kept, so a way may end where nothing is stored.  Where links run in a cycle
the way has no end, and a path leads nowhere.
-/

namespace RichText.FileSystem

/-- A name that an entry can have. -/
def IsName (n : Text) : Prop :=
  n ≠ [] ∧ n ≠ [.char '.'] ∧ n ≠ [.char '.', .char '.'] ∧ .char '/' ∉ n

instance (n : Text) : Decidable (IsName n) := inferInstanceAs (Decidable (_ ∧ _))

/-- The directory that the target of a link in `here` is followed from. -/
def linkStart (here : List Text) (target : Text) : List Text :=
  if target.head? == some (.char '/') then [] else here

/-- **Where names lead**: followed from `here`, the names `rest` end at `place`, and `links` of them
have been links. -/
inductive Leads (root : Entry) : (links : Nat) → (here rest place : List Text) → Prop
  | done {here : List Text} : Leads root 0 here [] here
  | stay {links : Nat} {here rest place : List Text} {n : Text} (hn : n = [] ∨ n = [.char '.'])
    (h : Leads root links here rest place) : Leads root links here (n :: rest) place
  | up {links : Nat} {here rest place : List Text} (h : Leads root links here.dropLast rest place) :
    Leads root links here ([.char '.', .char '.'] :: rest) place
  | enter {links : Nat} {here rest place : List Text} {n : Text} (hn : IsName n)
    (hlink : ∀ target, root.at? (here ++ [n]) ≠ some (.link target))
    (h : Leads root links (here ++ [n]) rest place) : Leads root links here (n :: rest) place
  | link {links : Nat} {here rest place : List Text} {n target : Text} (hn : IsName n)
    (hlink : root.at? (here ++ [n]) = some (.link target))
    (h : Leads root links (linkStart here target) (List.splitOn (.char '/') target ++ rest) place) :
    Leads root (links + 1) here (n :: rest) place

/-- The directory that the names of a path are followed from. -/
def startOf (fs : FileSystem) (p : Path) : List Text :=
  if p.isAbsolute then [] else fs.workingDirectory

/-- **A path leads to a place**: the names from the root that are left once every link is followed. -/
def LeadsTo (fs : FileSystem) (p : Path) (place : List Text) : Prop :=
  ∃ links, Leads fs.root links (fs.startOf p) p.names place

/-- **A file system whose working directory is one**, given by the names of directories from the root
down. -/
structure IsSound (fs : FileSystem) : Prop where
  isName : ∀ n ∈ fs.workingDirectory, IsName n
  isDirectory : ∃ entries, fs.root.at? fs.workingDirectory = some (.directory entries)

end RichText.FileSystem
