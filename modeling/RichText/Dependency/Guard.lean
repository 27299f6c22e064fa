import RichText.Failure.Dependency

/-!
# Dependency/Guard — what a component needs

A component that needs packages is only run when every one of them can be imported and is of a
version that is wanted.  Otherwise the failure names all that are missing and all that are of the
wrong version, in the order they were asked for.  What a version is, and which versions a specifier
admits, is for a `VersionScheme` to say.
-/

namespace RichText

/-- **A package a component needs**: the name it is installed under, the one it is imported under,
and the versions wanted. -/
structure Requirement where
  installName : Text
  importName : Text
  spec : Text
  deriving DecidableEq

/-- **What is installed**: why names cannot be imported, if they cannot, and the versions of packages. -/
structure Environment where
  importFailure? : Text → Option Failure
  version? : Text → Option Text

/-- **Which texts are versions and which are specifiers of them**, and the versions that a specifier
admits. -/
structure VersionScheme where
  isVersion : Text → Bool
  isSpecifier : Text → Bool
  admits : (spec version : Text) → Bool

namespace Environment

/-- Whether a package of an installed version is one of those wanted, and the version. -/
def checkVersion (scheme : VersionScheme) (installed : Option Text) (spec : Text) :
    Except Failure (Bool × Option Text) :=
  match installed with
  | none | some [] => .ok (false, none)
  | some t =>
    if !scheme.isSpecifier spec then .ok (false, some t)
    else if !scheme.isVersion t then .error (.version t)
    else .ok (scheme.admits spec t, some t)

/-- What is wrong with a requirement. -/
inductive Verdict
  | met
  | missing (failure : Failure)
  | mismatched (installed : Text)

/-- The verdict on a requirement. -/
def judge (env : Environment) (scheme : VersionScheme) (r : Requirement) :
    Except Failure Verdict :=
  match env.importFailure? r.importName with
  | some failure => .ok (.missing failure)
  | none =>
    if r.spec.isEmpty then .ok .met
    else match checkVersion scheme (env.version? r.installName) r.spec with
      | .error e => .error e
      | .ok (true, _) => .ok .met
      | .ok (false, installed) => .ok (.mismatched (installed.getD "unknown"))

/-- The requirements that are not met: those that are missing, with the versions wanted, and those of
the wrong version, with the versions wanted and the one installed.  Of the failures to import only the
first is kept. -/
structure Unmet where
  missing : List (Text × Text) := []
  mismatched : List (Text × Text × Text) := []
  firstFailure : Option Failure := none

/-- One more requirement with the verdict on it. -/
def Unmet.add (u : Unmet) (r : Requirement) : Verdict → Unmet
  | .met => u
  | .missing failure =>
    { u with
      missing := u.missing ++ [(r.installName, r.spec)]
      firstFailure := u.firstFailure.or (some failure) }
  | .mismatched installed =>
    { u with mismatched := u.mismatched ++ [(r.installName, r.spec, installed)] }

/-- Everything that is not met. -/
def unmet (env : Environment) (scheme : VersionScheme) (requirements : List Requirement) :
    Except Failure Unmet :=
  requirements.foldlM (fun u r => u.add r <$> env.judge scheme r) {}

namespace Unmet

/-- The packages that are missing, as values. -/
def missingPairs (u : Unmet) : List Failure.MissingPackage :=
  u.missing.map fun (name, spec) => (.text name, .text spec)

/-- The packages of the wrong version, as values. -/
def mismatchedTriples (u : Unmet) : List Failure.MismatchedPackage :=
  u.mismatched.map fun (name, spec, installed) => (.text name, .text spec, .text installed)

/-- The failure of a component whose requirements are not met. -/
def toFailure (u : Unmet) (component : Text) : Failure :=
  let message := Failure.dependencyMessage component u.missingPairs u.mismatchedTriples (.text [])
  .dependency (.text component) (.list (u.missingPairs.map fun (n, s) => .list [n, s]))
    (.list (u.mismatchedTriples.map fun (n, s, i) => .list [n, s, i])) (.text []) (.text message)
    u.firstFailure

end Unmet

/-- **Run a component that needs packages**, if it has them all. -/
def guard {m : Type → Type} [Monad m] [MonadLiftT (Except Failure) m] {α : Type} (env : Environment)
    (scheme : VersionScheme) (component : Text) (requirements : List Requirement) (run : m α) :
    m α := do
  let u ← liftM (env.unmet scheme requirements)
  if u.missing.isEmpty && u.mismatched.isEmpty then run
  else liftM (Except.error (u.toFailure component) : Except Failure α)

end Environment

end RichText
