import RichText.Dependency.Guard
import RichText.Dependency.Version
import RichText.FileSystem.Path

/-!
# Dependency/Specifier — sets of versions

A specifier is a list of clauses between commas, all of which a version has to meet.  A clause
compares with a version, asks for release numbers to begin with, or asks for one spelling.  With these
versions and specifiers requirements are checked where no others are given
(`VersionScheme.numbered`).
-/

namespace RichText

/-- How a clause compares. -/
inductive Comparison
  | equal
  | notEqual
  | atMost
  | atLeast
  | below
  | above
  deriving DecidableEq

/-- **A clause of a specifier.** -/
inductive Clause
  | compare (how : Comparison) (v : Version)
  | compatible (v : Version)
  | beginsWith (wanted : Bool) (epoch : Nat) (release : List Nat)
  | spelled (t : Text)
  /-- No version meets the clause. -/
  | hopeless

namespace Clause

/-! ## Reading -/

/-- The release numbers a text spells that ends in a wildcard. -/
def wildcard? (t : Text) : Option (Nat × List Nat) :=
  let (epoch, rest) := Version.epochPart (Version.normalized t)
  match Version.release? rest with
  | some (release, rest) => if rest == Text.ofString ".*" then some (epoch, release) else none
  | none => none

/-- A clause that tells equal versions from others. -/
def equality? (how : Comparison) (operand : Text) : Option Clause :=
  match wildcard? operand with
  | some (epoch, release) => some (beginsWith (how == .equal) epoch release)
  | none => (Version.read? operand).map (compare how)

/-- A version without a label. -/
def unlabelled? (operand : Text) : Option Version := do
  let v ← Version.read? operand
  if v.label.isSome then none else some v

/-- A clause that compares by order. -/
def ordered? (how : Comparison) (operand : Text) : Option Clause :=
  (unlabelled? operand).map (compare how)

/-- Whether a version is spelled with a letter in front of its release numbers.  The numbers that a
compatible release begins with are compared with the letter, which no version has. -/
def isLettered (operand : Text) : Bool :=
  (operand.trim.map Version.lowerLetter).head? == some (.char 'v') && !operand.contains (.char '!')

/-- A clause that asks for a compatible release. -/
def compatible? (operand : Text) : Option Clause := do
  let v ← unlabelled? operand
  if v.release.length < 2 then none
  else if isLettered operand then some hopeless
  else some (compatible v)

/-- Code points that end the spelling of a version. -/
def endsSpelling (c : CodePoint) : Bool := c.isBlank || c = .char ';' || c = .char ')'

/-- A clause that asks for one spelling. -/
def spelled? (operand : Text) : Option Clause :=
  let t := operand.dropWhile (·.isBlank)
  if t.any endsSpelling then none else some (spelled t)

/-- **The clause a text spells.** -/
def read? : Text → Option Clause
  | .char '=' :: .char '=' :: .char '=' :: operand => spelled? operand
  | .char '=' :: .char '=' :: operand => equality? .equal operand
  | .char '!' :: .char '=' :: operand => equality? .notEqual operand
  | .char '~' :: .char '=' :: operand => compatible? operand
  | .char '<' :: .char '=' :: operand => ordered? .atMost operand
  | .char '>' :: .char '=' :: operand => ordered? .atLeast operand
  | .char '<' :: operand => ordered? .below operand
  | .char '>' :: operand => ordered? .above operand
  | _ => none

/-! ## Meaning -/

/-- Whether release numbers, filled up with zeros, begin with others. -/
def hasReleasePrefix (wanted : List Nat) (release : List Nat) : Bool :=
  let filled := release ++ List.replicate (wanted.length - release.length) 0
  filled.take wanted.length == wanted

/-- Whether a version begins with an epoch and release numbers. -/
def begins (epoch : Nat) (wanted : List Nat) (v : Version) : Bool :=
  v.epoch == epoch && hasReleasePrefix wanted v.release

/-- Whether a version equals another one; labels only count if the other one has one. -/
def equals (v w : Version) : Bool :=
  let v := if w.label.isSome then v else v.withoutLabel
  v.order w == .eq

/-- Whether a version is below another one.  Pre-releases of a release are not below it. -/
def isBelow (v w : Version) : Bool :=
  v.order w == .lt && (w.isPreRelease || !v.isPreRelease || !v.sameRelease w)

/-- Whether a version is above another one.  Post-releases of a release and labelled versions of it
are not above it. -/
def isAbove (v w : Version) : Bool :=
  v.order w == .gt && (w.post.isSome || v.post.isNone || !v.sameRelease w)
    && (v.label.isNone || !v.sameRelease w)

/-- A comparison of two versions. -/
def holds : Comparison → Version → Version → Bool
  | .equal, v, w => equals v w
  | .notEqual, v, w => !equals v w
  | .atMost, v, w => v.withoutLabel.order w != .gt
  | .atLeast, v, w => v.withoutLabel.order w != .lt
  | .below, v, w => isBelow v w
  | .above, v, w => isAbove v w

/-- **Whether a version meets a clause.** -/
def admits (c : Clause) (v : Version) : Bool :=
  match c with
  | compare how w => holds how v w
  | compatible w =>
    v.withoutLabel.order w != .lt && begins w.epoch w.release.dropLast v
  | beginsWith wanted epoch release => begins epoch release v == wanted
  | spelled t => v.text == t.map Version.lowerLetter
  | hopeless => false

end Clause

/-- **A specifier**: the clauses a version has to meet. -/
abbrev Specifier := List Clause

namespace Specifier

/-- The clauses of a specifier; those without text are skipped. -/
def read? (t : Text) : Option Specifier :=
  let parts := ((List.splitOn (.char ',') t).map Text.trim).filter fun part => !part.isEmpty
  parts.mapM Clause.read?

/-- Whether a version meets all clauses. -/
def admits (s : Specifier) (v : Version) : Bool := s.all fun c => c.admits v

end Specifier

/-- **Versions of release numbers**, and specifiers of them. -/
def VersionScheme.numbered : VersionScheme where
  isVersion t := (Version.read? t).isSome
  isSpecifier t := (Specifier.read? t).isSome
  admits spec t := match Specifier.read? spec, Version.read? t with
    | some clauses, some v => clauses.admits v
    | _, _ => false

end RichText
