import RichText.Failure
import RichText.Text.Case

/-!
# Failure/Dependency — the report of unmet requirements

One line for the packages that are missing, one for each package of the wrong version, and one that
says how to install them all.
-/

namespace RichText.Failure

/-- A package that is missing: its name and the versions wanted. -/
abbrev MissingPackage := Value × Value

/-- A package of the wrong version: its name, the versions wanted, and the one installed. -/
abbrev MismatchedPackage := Value × Value × Value

/-- The line that names the packages that are missing. -/
def missingLine (label : Text) (missing : List MissingPackage) : Text :=
  let names := missing.map fun (name, spec) => ("'" : Text) ++ requirement name spec ++ "'"
  label ++ " support needs packages that are not installed: " ++ Text.joinWith ", " names

/-- The line of a package of the wrong version. -/
def mismatchLine (label : Text) : MismatchedPackage → Text
  | (name, required, installed) =>
    label ++ " support needs '" ++ name.shown ++ required.shown ++ "', but " ++ installed.shown
      ++ " is installed"

/-- The command that installs packages. -/
def installCommand (wanted : List MissingPackage) : Text :=
  let names := wanted.map fun (name, spec) => ("\"" : Text) ++ requirement name spec ++ "\""
  "pip install --upgrade " ++ Text.joinWith " " names

/-- The packages to install. -/
def wantedPackages (missing : List MissingPackage) (mismatched : List MismatchedPackage) :
    List MissingPackage :=
  missing ++ mismatched.map fun (name, required, _) => (name, required)

/-- The line that says how to install the packages: by a command of the caller's, or by the one that
belongs to them. -/
def installLines (wanted : List MissingPackage) (command : Value) : List Text :=
  if command.truthy then ["Install with: " ++ command.shown]
  else if wanted.isEmpty then []
  else ["Install with: " ++ installCommand wanted]

/-- **The wording of unmet requirements.** -/
def dependencyMessage (component : Text) (missing : List MissingPackage)
    (mismatched : List MismatchedPackage) (command : Value) : Text :=
  let label := component.upper
  let missingLines := if missing.isEmpty then [] else [missingLine label missing]
  Text.joinWith "\n" (missingLines ++ mismatched.map (mismatchLine label)
    ++ installLines (wantedPackages missing mismatched) command)

/-! ## Packages as values -/

/-- The items of a value that has to have a number of them. -/
def unpack (count : Nat) (v : Value) : Except Failure (List Value) :=
  match v with
  | .list items =>
    if items.length < count then .error (.invalid (.tooFew count items.length))
    else if count < items.length then .error (.invalid (.tooMany count))
    else .ok items
  | .text t =>
    if t.length < count then .error (.invalid (.tooFew count t.length))
    else if count < t.length then .error (.invalid (.tooMany count))
    else .ok (t.map fun c => .text [c])
  | _ => .error .misuse

/-- A package that is missing. -/
def toMissing (v : Value) : Except Failure MissingPackage := do
  match ← unpack 2 v with
  | [name, spec] => return (name, spec)
  | _ => .error .misuse

/-- A package of the wrong version. -/
def toMismatched (v : Value) : Except Failure MismatchedPackage := do
  match ← unpack 3 v with
  | [name, required, installed] => return (name, required, installed)
  | _ => .error .misuse

/-- The items of a list. -/
def listItems : Value → Except Failure (List Value)
  | .list items => .ok items
  | _ => .error .misuse

/-- The wording of unmet requirements that are given as values. -/
def dependencyMessageOf (component missing mismatched command : Value) : Except Failure Text := do
  match component with
  | .text component =>
    let missing ← (← listItems missing).mapM toMissing
    let mismatched ← (← listItems mismatched).mapM toMismatched
    return dependencyMessage component missing mismatched command
  | _ => .error .noPart

end RichText.Failure
