import RichText.Failure.Dependency
import RichText.Fields

/-!
# Failure/Report — reports that callers make

The reports a caller can make, the more general ones each of them belongs to, and the named parts it
is made of.
-/

namespace RichText

/-- **The kinds of report.** -/
inductive Report
  | general
  | validation
  | wrongOptions
  | parsing
  | rendering
  | missingAttribute
  | dependency
  deriving DecidableEq

namespace Report

/-- A report and the more general ones it belongs to. -/
def lineage : Report → List Report
  | general => [general]
  | validation => [validation, general]
  | wrongOptions => [wrongOptions, validation, general]
  | parsing => [parsing, general]
  | rendering => [rendering, general]
  | missingAttribute => [missingAttribute, rendering, general]
  | dependency => [dependency, general]

/-- The parts a report cannot do without, and those it may have. -/
def parts : Report → List Text × List Text
  | general => (["message"], ["original_error"])
  | validation => (["message"], ["parameter_name", "parameter_value", "original_error"])
  | wrongOptions =>
    (["converter_name", "expected_type", "received_type"], ["message", "original_error"])
  | parsing => (["message"], ["parsing_stage", "original_error"])
  | rendering => (["message"], ["rendering_stage", "original_error"])
  | missingAttribute => (["node_kind", "attribute_name"], ["message"])
  | dependency => (["converter_name", "missing_packages"],
      ["version_mismatches", "install_command", "message", "original_import_error"])

/-- Whether parts are those of a report. -/
def accepts (r : Report) (given : Fields) : Bool :=
  given.all (fun f => r.parts.1.contains f.1 || r.parts.2.contains f.1)
    && r.parts.1.all fun name => (given.get? name).isSome

/-- The cause a text describes. -/
def causeOf : Value → Option Failure
  | .null => none
  | v => some (.invalid (.other v.shown))

/-- The report of unmet requirements that are given as values. -/
def makeDependency (given : Fields) : Except Failure Failure := do
  let part (name : Text) : Value := given.getD name .null
  let mismatched : Value :=
    if (part "version_mismatches").truthy then part "version_mismatches" else .list []
  let command := given.getD "install_command" (.text [])
  let message ←
    if (part "message").isNull then
      .text <$> Failure.dependencyMessageOf (part "converter_name") (part "missing_packages")
        mismatched command
    else .ok (part "message")
  let cause := match part "original_import_error" with
    | .null => none
    | v => some (.given v)
  return .dependency (part "converter_name") (part "missing_packages") mismatched command message
    cause

/-- **The report of a kind with named parts.** -/
def make (r : Report) (given : Fields) : Except Failure Failure :=
  let part (name : Text) : Value := given.getD name .null
  let cause := causeOf (part "original_error")
  if !r.accepts given then .error .misuse
  else match r with
    | general => .ok (.general (part "message") cause)
    | validation =>
      .ok (.validation (part "message") (part "parameter_name") (part "parameter_value") cause)
    | wrongOptions =>
      .ok (.wrongOptions (part "converter_name") (part "expected_type").shown
        (part "received_type").shown (part "message") cause)
    | parsing => .ok (.parsing (part "message") (part "parsing_stage") cause)
    | rendering => .ok (.rendering (part "message") (part "rendering_stage") cause)
    | missingAttribute =>
      .ok (.missingAttribute (part "node_kind") (part "attribute_name") (part "message"))
    | dependency => makeDependency given

end Report

end RichText
