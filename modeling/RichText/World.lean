import RichText.FileSystem
import RichText.Outcome

/-!
# World — what a conversion changes

Writing changes files, and streams take what they are given.  Both stay changed when something fails later
on, and so do the notices written on the way.
-/

namespace RichText

/-- What a stream is given at once. -/
inductive Chunk
  | bytes (b : List UInt8)
  | text (t : Text)
  deriving DecidableEq

/-- The bytes of a chunk. -/
def Chunk.toBytes : Chunk → Except Failure (List UInt8)
  | bytes b => .ok b
  | text t => t.toUtf8

/-- **The files, what streams have taken, and the log** around a conversion. -/
structure World where
  files : FileSystem
  received : List Chunk := []
  log : List Notice := []

/-- The world with notices at the end of its log. -/
def World.noted (w : World) (notices : List Notice) : World := { w with log := w.log ++ notices }

@[simp] theorem World.noted_nil (w : World) : w.noted [] = w := by simp [noted]

/-- **A computation that changes the world**, also where it fails. -/
abbrev Effect := ExceptT Failure (StateM World)

namespace Effect

variable {α β : Type}

/-- What a computation gives in a world, and the world behind it. -/
def exec (x : Effect α) (w : World) : Except Failure α × World := x.run.run w

/-- A result with its notices. -/
def ofOutcome (x : Outcome α) : Effect α := do
  modify (·.noted x.log)
  x.result

/-- Put a content into the file at a path. -/
def fill (path : Text) (content : List UInt8) : Effect Unit := do
  match (← get).files.put path content with
  | .ok files => modify ({ · with files })
  | .error e => throw (.file e)

/-- Put bytes behind what is in the file at a path. -/
def append (path : Text) (bytes : List UInt8) : Effect Unit := do
  match (← get).files.content path with
  | .ok content => fill path (content ++ bytes)
  | .error e => throw (.file e)

/-- Keep a chunk that a stream is given. -/
def keep (c : Chunk) : Effect Unit := modify fun w => { w with received := w.received ++ [c] }

@[simp] theorem exec_pure (a : α) (w : World) : (pure a : Effect α).exec w = (.ok a, w) := rfl

/-- Going on in the world that a computation leaves behind, unless it has failed. -/
theorem exec_bind (x : Effect α) (f : α → Effect β) (w : World) :
    (x >>= f).exec w = match x.exec w with
      | (.ok a, next) => (f a).exec next
      | (.error e, next) => (.error e, next) := by
  show StateT.run (ExceptT.run (x >>= f)) w = _
  rw [ExceptT.run_bind, StateT.run_bind, exec]
  obtain ⟨r, next⟩ := StateT.run (ExceptT.run x) w
  cases r <;> rfl

@[simp] theorem exec_get (w : World) : (get : Effect World).exec w = (.ok w, w) := rfl

@[simp] theorem exec_ofOutcome (x : Outcome α) (w : World) :
    (ofOutcome x).exec w = (x.result, w.noted x.log) := rfl

/-- Going on behind a result keeps its notices, whatever comes of it. -/
theorem exec_ofOutcome_bind (x : Outcome α) (f : α → Effect β) (w : World) :
    (ofOutcome x >>= f).exec w = match x.result with
      | .ok a => (f a).exec (w.noted x.log)
      | .error e => (.error e, w.noted x.log) := by
  rw [exec_bind, exec_ofOutcome]
  cases x.result <;> rfl

theorem exec_discard (x : Effect α) (w : World) :
    (discard x).exec w = ((x.exec w).1.map fun _ => (), (x.exec w).2) := by
  show (x >>= fun _ => pure ()).exec w = _
  rw [exec_bind]
  obtain ⟨r, next⟩ := x.exec w
  cases r <;> rfl

@[simp] theorem exec_ofExcept (r : Except Failure α) (w : World) :
    exec (liftM r : Effect α) w = (r, w) := rfl

theorem exec_fill (path : Text) (content : List UInt8) (w : World) :
    (fill path content).exec w = match w.files.put path content with
      | .ok files => (.ok (), { w with files })
      | .error e => (.error (.file e), w) := by
  show exec (do match w.files.put path content with
      | .ok files => modify ({ · with files })
      | .error e => throw (.file e)) w = _
  cases w.files.put path content <;> rfl

theorem exec_append (path : Text) (bytes : List UInt8) (w : World) :
    (append path bytes).exec w = match w.files.content path with
      | .ok content => (fill path (content ++ bytes)).exec w
      | .error e => (.error (.file e), w) := by
  show exec (do match w.files.content path with
      | .ok content => fill path (content ++ bytes)
      | .error e => throw (.file e)) w = _
  cases w.files.content path <;> rfl

@[simp] theorem exec_keep (c : Chunk) (w : World) :
    (keep c).exec w = (.ok (), { w with received := w.received ++ [c] }) := rfl

end Effect

end RichText
