import RichText.Dependency.Specifier
import RichText.World

/-!
# Proofs/Guard — a component runs where it has what it needs

    requirement ──import──▸ missing
         └────────▸ specifier ──version──▸ mismatched
                        └─────────────────▸ met

Every requirement is put into one of the three by what it asks for alone, so a run over requirements
leaves those that are missing and those that are mismatched behind, in the order in which they were asked
for (`unmet_eq`).  Nothing is asked of the scheme but that it knows what is installed for versions
(`Environment.HasVersions`).
-/

namespace RichText

/-- A requirement in a command: its name and the versions wanted, in quotation marks. -/
def Requirement.quoted (r : Requirement) : Text := "\"" ++ r.installName ++ r.spec ++ "\""

/-- A requirement in a list of those that are missing. -/
def Requirement.pair (r : Requirement) : Value := .list [.text r.installName, .text r.spec]

namespace Environment

variable {env : Environment} {scheme : VersionScheme} {r : Requirement}
  {requirements : List Requirement} {u : Unmet}

/-- Whether a requirement cannot be imported. -/
def isMissing (env : Environment) (r : Requirement) : Bool := (env.importFailure? r.importName).isSome

/-- Whether the specifier of a requirement is one, and a version is installed that it admits. -/
def isSatisfied (env : Environment) (scheme : VersionScheme) (r : Requirement) : Bool :=
  match env.version? r.installName with
  | some t => scheme.isSpecifier r.spec && scheme.admits r.spec t
  | none => false

/-- Whether a requirement can be imported, but is not of a version that it asks for. -/
def isMismatched (env : Environment) (scheme : VersionScheme) (r : Requirement) : Bool :=
  !env.isMissing r && !r.spec.isEmpty && !env.isSatisfied scheme r

/-- **The versions installed are versions** of the scheme, and so no empty texts. -/
def HasVersions (env : Environment) (scheme : VersionScheme) : Prop :=
  ∀ name t, env.version? name = some t → t ≠ [] ∧ scheme.isVersion t = true

/-- The version of a requirement that is installed, as reports name it. -/
def installed (env : Environment) (r : Requirement) : Text :=
  (env.version? r.installName).getD "unknown"

/-- A requirement in a list of those of the wrong version. -/
def triple (env : Environment) (r : Requirement) : Value :=
  .list [.text r.installName, .text r.spec, .text (env.installed r)]

theorem checkVersion_eq (henv : env.HasVersions scheme) (r : Requirement) :
    checkVersion scheme (env.version? r.installName) r.spec
      = .ok (env.isSatisfied scheme r, env.version? r.installName) := by
  rw [isSatisfied]
  cases hversion : env.version? r.installName with
  | none => rfl
  | some t =>
    obtain ⟨hne, hv⟩ := henv _ t hversion
    obtain ⟨c, rest, rfl⟩ := List.exists_cons_of_ne_nil hne
    rw [checkVersion, hv]
    · cases scheme.isSpecifier r.spec <;> rfl
    · exact fun h => by cases h

/-- **What is wrong with a requirement**, by what it asks for. -/
def verdict (env : Environment) (scheme : VersionScheme) (r : Requirement) : Verdict :=
  match env.importFailure? r.importName with
  | some failure => .missing failure
  | none => if env.isMismatched scheme r then .mismatched (env.installed r) else .met

theorem judge_eq (henv : env.HasVersions scheme) (r : Requirement) :
    env.judge scheme r = .ok (env.verdict scheme r) := by
  rw [judge, verdict, checkVersion_eq henv]
  cases hfailure : env.importFailure? r.importName with
  | some failure => rfl
  | none =>
    have himported : env.isMissing r = false := by rw [isMissing, hfailure]; rfl
    rw [isMismatched, himported]
    cases r.spec.isEmpty <;> cases env.isSatisfied scheme r <;> rfl

namespace Unmet

/-- **What is not met among requirements**, in their order. -/
def of (env : Environment) (scheme : VersionScheme) (requirements : List Requirement) : Unmet where
  missing := (requirements.filter env.isMissing).map fun r => (r.installName, r.spec)
  mismatched := (requirements.filter (env.isMismatched scheme)).map fun r =>
    (r.installName, r.spec, env.installed r)
  firstFailure := requirements.findSome? fun r => env.importFailure? r.importName

/-- What is not met so far, and what is not met among further requirements. -/
def append (u v : Unmet) : Unmet where
  missing := u.missing ++ v.missing
  mismatched := u.mismatched ++ v.mismatched
  firstFailure := u.firstFailure.or v.firstFailure

theorem append_of_nil (u : Unmet) : u.append (of env scheme []) = u := by
  simp [append, of]

theorem append_of_cons (u : Unmet) (r : Requirement) (rest : List Requirement) :
    (u.append (of env scheme [r])).append (of env scheme rest)
      = u.append (of env scheme (r :: rest)) := by
  simp only [append, of, List.append_assoc, ← List.map_append, ← List.filter_append,
    List.singleton_append, Option.or_assoc, mk.injEq, true_and]
  cases hfailure : env.importFailure? r.importName <;> simp [hfailure]

/-- **One step** puts a requirement among those that it belongs to. -/
theorem add_verdict (u : Unmet) (r : Requirement) :
    u.add r (env.verdict scheme r) = u.append (of env scheme [r]) := by
  rw [verdict]
  cases hfailure : env.importFailure? r.importName with
  | some failure =>
    have hmissing : env.isMissing r = true := by rw [isMissing, hfailure]; rfl
    simp [add, append, of, hfailure, hmissing, isMismatched]
  | none =>
    have hmissing : env.isMissing r = false := by rw [isMissing, hfailure]; rfl
    cases hmismatched : env.isMismatched scheme r <;>
      simp [add, append, of, hfailure, hmissing, hmismatched]

end Unmet

/-- **A run over requirements** leaves just those behind that are not met. -/
theorem unmet_eq (henv : env.HasVersions scheme) (requirements : List Requirement) :
    env.unmet scheme requirements = .ok (.of env scheme requirements) := by
  have hrun (u : Unmet) : requirements.foldlM (fun u r => u.add r <$> env.judge scheme r) u
      = .ok (u.append (.of env scheme requirements)) := by
    induction requirements generalizing u with
    | nil => rw [Unmet.append_of_nil]; rfl
    | cons r rest ih =>
      rw [List.foldlM_cons, judge_eq henv]
      show rest.foldlM _ (u.add r (env.verdict scheme r)) = _
      rw [Unmet.add_verdict, ih, Unmet.append_of_cons]
  exact (hrun {}).trans (by simp [Unmet.append, Unmet.of])

/-! ## The report -/

theorem requirement_text (name spec : Text) :
    Failure.requirement (.text name) (.text spec) = name ++ spec := by
  cases spec with
  | nil => exact (List.append_nil name).symm
  | cons c rest => rfl

theorem installCommand_of (env : Environment) (scheme : VersionScheme)
    (requirements : List Requirement) :
    Failure.installCommand (Failure.wantedPackages (Unmet.of env scheme requirements).missingPairs
        (Unmet.of env scheme requirements).mismatchedTriples)
      = "pip install --upgrade " ++ Text.joinWith " "
          ((requirements.filter env.isMissing ++ requirements.filter (env.isMismatched scheme)).map
            Requirement.quoted) := by
  have hquoted : Requirement.quoted = fun r => "\"" ++
      Failure.requirement (.text r.installName) (.text r.spec) ++ "\"" := by
    funext r
    rw [requirement_text, Requirement.quoted, List.append_assoc (Text.ofString _)]
  rw [Failure.installCommand, Failure.wantedPackages, hquoted]
  simp only [Unmet.missingPairs, Unmet.mismatchedTriples, Unmet.of, List.map_map, List.map_append,
    Function.comp_def]

theorem joinWith_concat (separator t : Text) {lines : List Text} (h : lines ≠ []) :
    Text.joinWith separator (lines ++ [t]) = Text.joinWith separator lines ++ separator ++ t := by
  induction lines with
  | nil => exact absurd rfl h
  | cons line rest ih =>
    cases rest with
    | nil => rfl
    | cons next rest =>
      have hrest := ih (List.cons_ne_nil _ _)
      simp only [List.cons_append, Text.joinWith, List.append_assoc] at hrest ⊢
      rw [hrest]

/-- The report ends with the line that says how to install what is not met. -/
theorem exists_dependencyMessage (component : Text) {missing : List Failure.MissingPackage}
    {mismatched : List Failure.MismatchedPackage} (h : missing ≠ [] ∨ mismatched ≠ []) :
    ∃ front : Text, Failure.dependencyMessage component missing mismatched (.text [])
      = front ++ "\nInstall with: "
        ++ Failure.installCommand (Failure.wantedPackages missing mismatched) := by
  have hwanted : (Failure.wantedPackages missing mismatched).isEmpty = false := by
    rcases h with h | h <;> simp [Failure.wantedPackages, h]
  obtain ⟨lines, hlines⟩ : ∃ lines, lines = (if missing.isEmpty then [] else
      [Failure.missingLine component.upper missing])
        ++ mismatched.map (Failure.mismatchLine component.upper) := ⟨_, rfl⟩
  have hne : lines ≠ [] := by
    rcases h with h | h <;> simp [hlines, h]
  refine ⟨Text.joinWith "\n" lines, ?_⟩
  rw [Failure.dependencyMessage, Failure.installLines, hwanted, ← hlines]
  refine (joinWith_concat "\n" _ hne).trans ?_
  rw [List.append_assoc, List.append_assoc]
  rfl

/-! ## Running -/

variable {α : Type}

/-- Whether every requirement can be imported, and every specifier is one and admits what is
installed. -/
def HasAll (env : Environment) (scheme : VersionScheme) (requirements : List Requirement) : Prop :=
  ∀ r ∈ requirements, env.importFailure? r.importName = none
    ∧ (r.spec ≠ [] → env.isSatisfied scheme r = true)

instance : Decidable (env.HasAll scheme requirements) :=
  inferInstanceAs (Decidable (∀ r ∈ requirements, _ ∧ (_ → _)))

theorem hasAll_iff : env.HasAll scheme requirements
    ↔ (Unmet.of env scheme requirements).missing = []
      ∧ (Unmet.of env scheme requirements).mismatched = [] := by
  simp only [Unmet.of, List.map_eq_nil_iff, List.filter_eq_nil_iff, HasAll, ← forall_and]
  refine forall_congr' fun r => forall_congr' fun _ => ?_
  cases hfailure : env.importFailure? r.importName with
  | some failure => simp [isMissing, hfailure]
  | none => simp [isMissing, isMismatched, hfailure]

/-- The report of requirements that are not all met. -/
theorem exists_toFailure (component : Text) (h : ¬ env.HasAll scheme requirements) :
    ∃ front : Text, (Unmet.of env scheme requirements).toFailure component
      = .dependency (.text component) (.list ((requirements.filter env.isMissing).map Requirement.pair))
        (.list ((requirements.filter (env.isMismatched scheme)).map env.triple)) (.text [])
        (.text (front ++ "\nInstall with: " ++ ("pip install --upgrade " ++ Text.joinWith " "
          ((requirements.filter env.isMissing ++ requirements.filter (env.isMismatched scheme)).map
            Requirement.quoted))))
        (requirements.findSome? fun r => env.importFailure? r.importName) := by
  have hunmet : (Unmet.of env scheme requirements).missingPairs ≠ []
      ∨ (Unmet.of env scheme requirements).mismatchedTriples ≠ [] := by
    rw [hasAll_iff, Decidable.not_and_iff_not_or_not] at h
    simpa only [Unmet.missingPairs, Unmet.mismatchedTriples, ne_eq, List.map_eq_nil_iff] using h
  obtain ⟨front, hfront⟩ := exists_dependencyMessage component hunmet
  refine ⟨front, ?_⟩
  rw [Unmet.toFailure, hfront, installCommand_of]
  simp only [Unmet.missingPairs, Unmet.mismatchedTriples, Unmet.of, List.map_map]
  rfl

/-- Nothing of a component that lacks something is run. -/
theorem exec_guard (henv : env.HasVersions scheme) (component : Text)
    (requirements : List Requirement) (run : Effect α) (w : World) :
    (env.guard scheme component requirements run).exec w
      = if env.HasAll scheme requirements then run.exec w
        else (.error ((Unmet.of env scheme requirements).toFailure component), w) := by
  rw [guard, Effect.exec_bind, unmet_eq henv, Effect.exec_ofExcept]
  dsimp only
  simp only [hasAll_iff, Bool.and_eq_true, List.isEmpty_iff]
  split <;> rfl

/-- **A component runs just where it has what it needs**, in whatever scheme of versions.  Where it lacks
something, nothing is changed, and the report has the requirements that cannot be imported, those that can
but are not of a version they ask for, both in the order in which they were asked for, and the first
failure to import, if there is one.  No requirement is both, and the last line of the message names each of
them. -/
theorem guard_runs_iff (henv : env.HasVersions scheme) (component : Text)
    (requirements : List Requirement) :
    let missing := requirements.filter env.isMissing
    let mismatched := requirements.filter (env.isMismatched scheme)
    (∀ r, ¬ (env.isMissing r = true ∧ env.isMismatched scheme r = true))
      ∧ (env.HasAll scheme requirements ↔ ∀ (α : Type) (run : Effect α) w,
          (env.guard scheme component requirements run).exec w = run.exec w)
      ∧ (¬ env.HasAll scheme requirements → ∃ front : Text, ∀ (α : Type) (run : Effect α) w,
          (env.guard scheme component requirements run).exec w
            = (.error (.dependency (.text component) (.list (missing.map Requirement.pair))
                (.list (mismatched.map env.triple)) (.text [])
                (.text (front ++ "\nInstall with: " ++ ("pip install --upgrade " ++ Text.joinWith " "
                  ((missing ++ mismatched).map Requirement.quoted))))
                (requirements.findSome? fun r => env.importFailure? r.importName)), w)) := by
  intro missing mismatched
  refine ⟨fun r h => ?_, ⟨fun hall α run w => ?_, fun hruns => ?_⟩, fun hlacks => ?_⟩
  · rw [isMismatched, h.1] at h
    exact Bool.false_ne_true h.2
  · rw [exec_guard henv, if_pos hall]
  · refine Decidable.byContradiction fun hlacks => ?_
    have hrun := hruns Unit (pure ()) { files := default }
    rw [exec_guard henv, if_neg hlacks] at hrun
    cases hrun
  · obtain ⟨front, hfront⟩ := exists_toFailure component hlacks
    exact ⟨front, fun α run w => by rw [exec_guard henv, if_neg hlacks, hfront]⟩

section Samples

/-- Two packages, of which the one that is not imported under its own name has a version. -/
def fewPackages : Environment where
  importFailure? name := if name ∈ (["yaml", "docs"] : List Text) then none else some .notImported
  version? name := if name = "pyyaml" then some "6.0.3" else none

theorem fewPackages_hasVersions : fewPackages.HasVersions .numbered := by
  intro name t ht
  simp only [fewPackages, Option.ite_none_right_eq_some, Option.some.injEq] at ht
  rw [← ht.2]
  exact ⟨by decide, by decide +kernel⟩

/-- A requirement may be there twice, ask for no version, for one that is too new, or for nothing that can
be read. -/
theorem guard_runs_iff_sample :
    let yaml : Requirement := ⟨"pyyaml", "yaml", ">=6.0"⟩
    let newYaml : Requirement := ⟨"pyyaml", "yaml", ">=7"⟩
    let docs : Requirement := ⟨"docs", "docs", "latest"⟩
    let parser : Requirement := ⟨"mistune", "mistune", ">=3.0.0"⟩
    let fonts : Requirement := ⟨"fonts", "font_tools", ""⟩
    fewPackages.HasVersions .numbered
      ∧ (∀ (run : Effect Text) w, (fewPackages.guard .numbered "rtf" [yaml, yaml] run).exec w = run.exec w)
      ∧ ∃ front : Text, ∀ (run : Effect Text) w,
          (fewPackages.guard .numbered "rtf" [yaml, fonts, newYaml, parser, docs, fonts] run).exec w
            = (.error (.dependency (.text "rtf")
                (.list [fonts.pair, parser.pair, fonts.pair])
                (.list [.list [.text "pyyaml", .text ">=7", .text "6.0.3"],
                  .list [.text "docs", .text "latest", .text "unknown"]]) (.text [])
                (.text (front ++ "\nInstall with: " ++ "pip install --upgrade \"fonts\" \"mistune>=3.0.0\""
                  ++ " \"fonts\" \"pyyaml>=7\" \"docslatest\"")) (some .notImported)), w) := by
  intro yaml newYaml docs parser fonts
  have hyaml : fewPackages.HasAll .numbered [yaml, yaml] := by decide +kernel
  have hlacks : ¬ fewPackages.HasAll .numbered [yaml, fonts, newYaml, parser, docs, fonts] := by
    decide +kernel
  refine ⟨fewPackages_hasVersions, fun run w => ?_, ?_⟩
  · exact (guard_runs_iff fewPackages_hasVersions "rtf" _).2.1.mp hyaml _ run w
  · obtain ⟨front, hfront⟩ := (guard_runs_iff fewPackages_hasVersions "rtf" _).2.2 hlacks
    have hmissing : [yaml, fonts, newYaml, parser, docs, fonts].filter fewPackages.isMissing
        = [fonts, parser, fonts] := by decide +kernel
    have hmismatched : [yaml, fonts, newYaml, parser, docs, fonts].filter
        (fewPackages.isMismatched .numbered) = [newYaml, docs] := by decide +kernel
    refine ⟨front, fun run w => (hfront _ run w).trans ?_⟩
    rw [hmissing, hmismatched, List.append_assoc front, List.append_assoc front,
      List.append_assoc front]
    rfl

end Samples

end Environment

end RichText
