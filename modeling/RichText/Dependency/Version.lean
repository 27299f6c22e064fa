import RichText.Text.Class
import RichText.Text.Numeral

/-!
# Dependency/Version — version numbers of packages

A version has an epoch, release numbers and, in this order, an optional mark of a pre-release, of a
post-release and of a development release, and a local label.  Trailing zeros of a release do not
count in comparisons.
-/

namespace RichText

/-- The stages before a release. -/
inductive Stage
  | alpha
  | beta
  | candidate
  deriving DecidableEq

/-- A part of a local label. -/
inductive LabelPart
  | number (n : Nat)
  | word (t : Text)
  deriving DecidableEq

/-- **The version of a package.** -/
structure Version where
  epoch : Nat
  release : List Nat
  pre : Option (Stage × Nat)
  post : Option Nat
  dev : Option Nat
  label : Option (List LabelPart)
  deriving DecidableEq

namespace Version

/-! ## Reading -/

def isSeparator (c : CodePoint) : Bool := c = .char '.' || c = .char '_' || c = .char '-'

/-- The text without a separator in front. -/
def dropSeparator : Text → Text
  | [] => []
  | c :: rest => if isSeparator c then rest else c :: rest

/-- The first of some words that a text begins with, and what follows it. -/
def word? (words : List String) (t : Text) : Option (String × Text) :=
  (words.find? fun w => (Text.ofString w).isPrefixOf t).map fun w => (w, t.drop w.length)

/-- A number at the start of a text. -/
def number? (t : Text) : Option (Nat × Text) :=
  match t.span (·.isDigit) with
  | ([], _) => none
  | (digits, rest) => some (Text.toNat digits, rest)

/-- A word between optional separators with an optional number behind it. -/
def mark? (words : List String) (t : Text) : Option (String × Nat × Text) :=
  (word? words (dropSeparator t)).map fun (w, rest) =>
    let (digits, rest) := (dropSeparator rest).span (·.isDigit)
    (w, Text.toNat digits, rest)

/-- The stage a word stands for. -/
def stageOf (w : String) : Stage :=
  if w == "alpha" || w == "a" then .alpha
  else if w == "beta" || w == "b" then .beta
  else .candidate

/-- The mark of a pre-release. -/
def prePart (t : Text) : Option (Stage × Nat) × Text :=
  match mark? ["alpha", "a", "beta", "b", "preview", "pre", "c", "rc"] t with
  | some (w, n, rest) => (some (stageOf w, n), rest)
  | none => (none, t)

/-- The mark of a post-release; a hyphen and a number are one too. -/
def postPart (t : Text) : Option Nat × Text :=
  let short := match t with
    | .char '-' :: rest => number? rest
    | _ => none
  match short with
  | some (n, rest) => (some n, rest)
  | none => match mark? ["post", "rev", "r"] t with
    | some (_, n, rest) => (some n, rest)
    | none => (none, t)

/-- The mark of a development release. -/
def devPart (t : Text) : Option Nat × Text :=
  match mark? ["dev"] t with
  | some (_, n, rest) => (some n, rest)
  | none => (none, t)

/-- Release numbers behind the first one. -/
def moreNumbers : Nat → Text → List Nat × Text
  | fuel + 1, .char '.' :: rest =>
    match number? rest with
    | some (n, rest) =>
      let (more, rest) := moreNumbers fuel rest
      (n :: more, rest)
    | none => ([], .char '.' :: rest)
  | _, t => ([], t)

/-- Release numbers. -/
def release? (t : Text) : Option (List Nat × Text) :=
  (number? t).map fun (n, rest) =>
    let (more, rest) := moreNumbers t.length rest
    (n :: more, rest)

/-- The epoch in front of a release. -/
def epochPart (t : Text) : Nat × Text :=
  match number? t with
  | some (n, .char '!' :: rest) => (n, rest)
  | _ => (0, t)

/-- The part of a label a text spells. -/
def labelPart? (t : Text) : Option LabelPart :=
  if t.isEmpty || !t.all (·.isAlphanum) then none
  else match Text.toNat? t with
    | some n => some (.number n)
    | none => some (.word t)

/-- The parts of a text between separators. -/
def labelTexts : Text → List Text
  | [] => [[]]
  | c :: rest =>
    if isSeparator c then [] :: labelTexts rest
    else match labelTexts rest with
      | [] => [[c]]
      | t :: more => (c :: t) :: more

/-- The local label that is all that is left of a text. -/
def label? : Text → Option (Option (List LabelPart))
  | [] => some none
  | .char '+' :: rest => ((labelTexts rest).mapM labelPart?).map some
  | _ => none

/-- An ASCII letter in lower case. -/
def lowerLetter : CodePoint → CodePoint
  | .char c => .char c.toLower
  | c => c

/-- A text without blanks around it and a letter v in front, in lower case. -/
def normalized (t : Text) : Text :=
  match t.trim.map lowerLetter with
  | .char 'v' :: rest => rest
  | t => t

/-- **The version a text spells.** -/
def read? (t : Text) : Option Version := do
  let (epoch, rest) := epochPart (normalized t)
  let (release, rest) ← release? rest
  let (pre, rest) := prePart rest
  let (post, rest) := postPart rest
  let (dev, rest) := devPart rest
  return ⟨epoch, release, pre, post, dev, ← label? rest⟩

/-! ## Writing -/

def stageText : Stage → Text
  | .alpha => "a"
  | .beta => "b"
  | .candidate => "rc"

def labelText : LabelPart → Text
  | .number n => Text.ofNat n
  | .word t => t

/-- Texts with dots between them. -/
def dotted : List Text → Text
  | [] => []
  | [t] => t
  | t :: rest => t ++ "." ++ dotted rest

/-- **The normal form of a version.** -/
def text (v : Version) : Text :=
  (if v.epoch = 0 then [] else Text.ofNat v.epoch ++ ("!" : Text))
    ++ dotted (v.release.map Text.ofNat)
    ++ (match v.pre with
      | some (stage, n) => stageText stage ++ Text.ofNat n
      | none => [])
    ++ (match v.post with
      | some n => (".post" : Text) ++ Text.ofNat n
      | none => [])
    ++ (match v.dev with
      | some n => (".dev" : Text) ++ Text.ofNat n
      | none => [])
    ++ (match v.label with
      | some parts => ("+" : Text) ++ dotted (parts.map labelText)
      | none => [])

/-! ## Order -/

/-- A release without trailing zeros. -/
def significant (release : List Nat) : List Nat :=
  (release.reverse.dropWhile (· == 0)).reverse

/-- The place of a version among those of one release: development releases come before everything
else, then the stages, then the release itself. -/
def stageRank (v : Version) : Nat × Nat :=
  match v.pre with
  | some (.alpha, n) => (1, n)
  | some (.beta, n) => (2, n)
  | some (.candidate, n) => (3, n)
  | none => if v.post.isNone && v.dev.isSome then (0, 0) else (4, 0)

def postRank (v : Version) : Nat :=
  match v.post with
  | some n => n + 1
  | none => 0

def devRank (v : Version) : Nat × Nat :=
  match v.dev with
  | some n => (0, n)
  | none => (1, 0)

/-- Lists in the order of their first difference, shorter ones first. -/
def compareLists {α : Type} (compareItems : α → α → Ordering) : List α → List α → Ordering
  | [], [] => .eq
  | [], _ :: _ => .lt
  | _ :: _, [] => .gt
  | x :: xs, y :: ys => (compareItems x y).then (compareLists compareItems xs ys)

def comparePairs (x y : Nat × Nat) : Ordering := (compare x.1 y.1).then (compare x.2 y.2)

/-- Parts of labels: words in the order of their letters, before numbers. -/
def compareParts : LabelPart → LabelPart → Ordering
  | .number m, .number n => compare m n
  | .number _, .word _ => .gt
  | .word _, .number _ => .lt
  | .word s, .word t => compareLists (fun a b => compare a.code b.code) s t

/-- Labels; none comes before any. -/
def compareLabels : Option (List LabelPart) → Option (List LabelPart) → Ordering
  | none, none => .eq
  | none, some _ => .lt
  | some _, none => .gt
  | some x, some y => compareLists compareParts x y

/-- **The order of versions.** -/
def order (v w : Version) : Ordering :=
  (compare v.epoch w.epoch).then <|
  (compareLists compare (significant v.release) (significant w.release)).then <|
  (comparePairs v.stageRank w.stageRank).then <|
  (compare v.postRank w.postRank).then <|
  (comparePairs v.devRank w.devRank).then <|
  compareLabels v.label w.label

/-- A version without its label. -/
def withoutLabel (v : Version) : Version := { v with label := none }

/-- Whether two versions belong to one release. -/
def sameRelease (v w : Version) : Bool :=
  v.epoch == w.epoch && significant v.release == significant w.release

def isPreRelease (v : Version) : Bool := v.pre.isSome || v.dev.isSome

end Version

end RichText
