import RichText.Yaml.Token.Block
import RichText.Yaml.Token.Name
import RichText.Yaml.Token.Plain
import RichText.Yaml.Token.Quoted

/-!
# Yaml/Token/Stream — the tokens of a text, one after the other

Most tokens begin with a character of their own.  Two kinds are known only later.  The columns of
the open block collections are kept innermost first, and a token further to the left ends those
beyond it.  A token that may turn out to be a key is remembered, and when a colon follows it on its
line the key token, and the start of a mapping if one begins there, are inserted before it.

A reader takes tokens as they come, so a fault concerns only a reader that gets that far.  A token
that may still turn out to be a key is not handed out yet.
-/

namespace RichText.Yaml

/-- A token that may turn out to be a key: how many tokens come before it, whether nothing else can
stand in its column, and where it begins. -/
structure Candidate where
  before : Nat
  required : Bool
  start : Cursor

/-- The tokens read so far, last one first, and what decides about the next one. -/
structure Reading where
  cursor : Cursor
  tokens : List Token := []
  count : Nat := 0
  /-- The columns of the open block collections, innermost first. -/
  columns : List Nat := []
  /-- The candidate outside of every flow collection or in the innermost one. -/
  candidate : Option Candidate := none
  /-- The candidates around the open flow collections, innermost first. -/
  outer : List (Option Candidate) := []
  /-- Whether a candidate may begin here. -/
  keyAllowed : Bool := true
  finished : Bool := false

/-- **The tokens that can be taken from a text**, and the fault a reader meets that asks for more. -/
structure TokenStream where
  tokens : List Token
  fault : Option Fault

namespace Reading

def inFlow (r : Reading) : Bool := !r.outer.isEmpty

/-- The reading with one more token. -/
def push (r : Reading) (t : Token) : Reading :=
  { r with tokens := t :: r.tokens, count := r.count + 1 }

/-- The reading with a token inserted behind the first `before` tokens. -/
def insertAt (r : Reading) (before : Nat) (t : Token) : Reading :=
  let later := r.count - before
  { r with tokens := r.tokens.take later ++ t :: r.tokens.drop later, count := r.count + 1 }

/-! ## Candidates -/

/-- Whether a candidate can no longer become a key, since its line has ended or it is too long. -/
def isStale (r : Reading) (c : Candidate) : Bool :=
  c.start.line != r.cursor.line || r.cursor.index - c.start.index > 1024

/-- A candidate unless it is stale; one that nothing else can stand for must not be. -/
def refresh (r : Reading) : Option Candidate → Except Fault (Option Candidate)
  | none => .ok none
  | some c =>
    if !r.isStale c then .ok (some c)
    else if c.required then .error .malformed
    else .ok none

/-- The reading without stale candidates. -/
def dropStale (r : Reading) : Except Fault Reading := do
  return { r with candidate := ← r.refresh r.candidate, outer := ← r.outer.mapM r.refresh }

/-- The reading without the innermost candidate, which something else has to be possible for. -/
def dropCandidate (r : Reading) : Except Fault Reading :=
  if r.candidate.any (·.required) then .error .malformed else .ok { r with candidate := none }

/-- The reading with a candidate that begins here, if one may. -/
def propose (r : Reading) : Except Fault Reading := do
  if !r.keyAllowed then return r
  let required := !r.inFlow && r.columns.head? == some r.cursor.column
  let r ← r.dropCandidate
  return { r with candidate := some ⟨r.count, required, r.cursor⟩ }

/-! ## Indentation -/

/-- Ends of collections for a number of columns. -/
def closeBlocks (r : Reading) (n : Nat) : Reading :=
  n.repeat (fun r => r.push .blockEnd) { r with columns := r.columns.drop n }

/-- The reading with the block collections to the right of a column ended. -/
def unwind (r : Reading) (column : Nat) : Reading :=
  if r.inFlow then r else r.closeBlocks (r.columns.takeWhile (· > column)).length

/-- The reading with all block collections ended. -/
def unwindAll (r : Reading) : Reading := if r.inFlow then r else r.closeBlocks r.columns.length

/-- The reading with a block collection in a column, and whether that is a new one. -/
def indent (r : Reading) (column : Nat) : Reading × Bool :=
  if r.columns.head?.all (· < column) then ({ r with columns := column :: r.columns }, true)
  else (r, false)

/-- The reading with the start of a block collection here, if one begins. -/
def openBlock (r : Reading) (start : Token) : Reading :=
  let (r, isNew) := r.indent r.cursor.column
  if isNew then r.push start else r

/-! ## Tokens -/

/-- The cursor at the next token, and whether a line has ended before it. -/
def skipToToken (fuel : Nat) (lineEnded : Bool) (c : Cursor) : Bool × Cursor :=
  match fuel with
  | 0 => (lineEnded, c)
  | fuel + 1 =>
    let c := c.skipSpaces
    let c := if c.head == '#' then c.skipWhile (!isBreak ·) else c
    match c.break? with
    | some (_, c) => skipToToken fuel true c
    | none => (lineEnded, c)

/-- The reading at the next token. -/
def toToken (r : Reading) : Reading :=
  let c := if r.cursor.index == 0 && r.cursor.head == '\uFEFF' then r.cursor.next else r.cursor
  let (lineEnded, c) := skipToToken (c.rest.length + 1) false c
  { r with cursor := c, keyAllowed := r.keyAllowed || (lineEnded && !r.inFlow) }

/-- The reading with a token of `n` characters. -/
def mark (r : Reading) (n : Nat) (t : Token) : Reading :=
  { r.push t with cursor := r.cursor.skip n }

/-- The end of the text. -/
def atEnd (r : Reading) : Except Fault Reading := do
  let r ← r.unwindAll.dropCandidate
  return { r.push .streamEnd with finished := true }

/-- What only stands between documents: the block collections before it are ended. -/
def betweenDocuments (r : Reading) : Except Fault Reading := do
  return { ← r.unwindAll.dropCandidate with keyAllowed := false }

def flowStart (r : Reading) (t : Token) : Except Fault Reading := do
  let r ← r.propose
  let r := r.mark 1 t
  return { r with candidate := none, outer := r.candidate :: r.outer, keyAllowed := true }

def flowEnd (r : Reading) (t : Token) : Except Fault Reading := do
  let r ← r.dropCandidate
  match r.outer with
  | [] => .error .malformed
  | candidate :: outer =>
    return { r.mark 1 t with candidate := candidate, outer := outer, keyAllowed := false }

def comma (r : Reading) : Except Fault Reading := do
  return { (← r.dropCandidate).mark 1 .comma with keyAllowed := true }

/-- The mark of an entry of a block sequence. -/
def blockEntry (r : Reading) : Except Fault Reading := do
  if !r.inFlow && !r.keyAllowed then throw .malformed
  let r := if r.inFlow then r else r.openBlock .sequenceStart
  return { (← r.dropCandidate).mark 1 .entry with keyAllowed := true }

/-- The mark of a key. -/
def keyMark (r : Reading) : Except Fault Reading := do
  if !r.inFlow && !r.keyAllowed then throw .malformed
  let r := if r.inFlow then r else r.openBlock .mappingStart
  return { (← r.dropCandidate).mark 1 .key with keyAllowed := !r.inFlow }

/-- The mark of a value.  It makes a key of the innermost candidate. -/
def valueMark (r : Reading) : Except Fault Reading := do
  match r.candidate with
  | some c =>
    let r := { r.insertAt c.before .key with candidate := none, keyAllowed := false }
    let (r, isNew) := if r.inFlow then (r, false) else r.indent c.start.column
    let r := if isNew then r.insertAt c.before .mappingStart else r
    return r.mark 1 .value
  | none =>
    if !r.inFlow && !r.keyAllowed then throw .malformed
    let r := if r.inFlow then r else r.openBlock .mappingStart
    return { r.mark 1 .value with keyAllowed := !r.inFlow }

/-- A token that can be a key or stand in one. -/
def inKey (r : Reading) (scan : Cursor → Except Fault (Token × Cursor)) : Except Fault Reading := do
  let r ← r.propose
  let (t, c) ← scan r.cursor
  return { r.push t with cursor := c, keyAllowed := false }

def plainScalar (r : Reading) : Except Fault Reading := do
  let r ← r.propose
  let least := (r.columns.head?.map (· + 1)).getD 0
  let (t, lineEnded, c) := Plain.scan r.inFlow least r.cursor
  return { r.push t with cursor := c, keyAllowed := lineEnded }

def blockScalar (r : Reading) (foldsBreaks : Bool) : Except Fault Reading := do
  let r ← r.dropCandidate
  let least := (r.columns.head?.map (· + 1)).getD 1
  let (t, c) ← Block.scan foldsBreaks least r.cursor
  return { r.push t with cursor := c, keyAllowed := true }

/-- Whether a plain scalar can begin at a cursor. -/
def startsPlain (flow : Bool) (c : Cursor) : Bool :=
  let x := c.head
  if x == '-' || (!flow && (x == '?' || x == ':')) then !endsWord (c.ahead 1)
  else !(endsWord x || isFlowMark x || "-?:#&*!|>'\"%@".toList.contains x || x.toNat == 0x60)

/-- The reading with the token at the cursor. -/
def token (r : Reading) : Except Fault Reading :=
  let c := r.cursor
  let x := c.head
  let alone := endsWord (c.ahead 1)
  if x == ending then r.atEnd
  else if x == '%' && c.column == 0 then do
    let r ← r.betweenDocuments
    let (t, c) ← Name.directive r.cursor
    return { r.push t with cursor := c }
  else if c.column == 0 && c.isAtMark '-' then do return (← r.betweenDocuments).mark 3 .documentStart
  else if c.column == 0 && c.isAtMark '.' then do return (← r.betweenDocuments).mark 3 .documentEnd
  else if x == '[' then r.flowStart .flowSequenceStart
  else if x == '\x7b' then r.flowStart .flowMappingStart
  else if x == ']' then r.flowEnd .flowSequenceEnd
  else if x == '\x7d' then r.flowEnd .flowMappingEnd
  else if x == ',' then r.comma
  else if x == '-' && alone then r.blockEntry
  else if x == '?' && (r.inFlow || alone) then r.keyMark
  else if x == ':' && (r.inFlow || alone) then r.valueMark
  else if x == '*' then r.inKey fun c => (Name.anchor c).map fun (name, c) => (.alias name, c)
  else if x == '&' then r.inKey fun c => (Name.anchor c).map fun (name, c) => (.anchor name, c)
  else if x == '!' then r.inKey Name.tag
  else if x == '|' && !r.inFlow then r.blockScalar false
  else if x == '>' && !r.inFlow then r.blockScalar true
  else if x == '\'' then r.inKey (Quoted.scan false)
  else if x == '"' then r.inKey (Quoted.scan true)
  else if startsPlain r.inFlow c then r.plainScalar
  else .error .malformed

/-- One more token, with what has to come before it. -/
def step (r : Reading) : Except Fault Reading := do
  let r ← r.toToken.dropStale
  (r.unwind r.cursor.column).token

/-- The number of tokens that can be taken: those before the first candidate. -/
def available (r : Reading) : Nat :=
  (r.candidate :: r.outer).foldl (fun n c => match c with
    | some c => min n c.before
    | none => n) r.count

/-- The tokens that can be taken. -/
def taken (r : Reading) : List Token := r.tokens.reverse.take r.available

/-- The stream of a reading that goes on.  Every step reads a character or is the last one. -/
def run (fuel : Nat) (r : Reading) : TokenStream :=
  match fuel with
  | 0 => ⟨r.taken, some .malformed⟩
  | fuel + 1 =>
    match r.dropStale with
    | .error e => ⟨r.taken, some e⟩
    | .ok r =>
      match r.step with
      | .error e => ⟨r.taken, some e⟩
      | .ok r => if r.finished then ⟨r.tokens.reverse, none⟩ else run fuel r

end Reading

namespace TokenStream

/-- **The tokens of a text.** -/
def ofChars (s : List Char) : TokenStream :=
  Reading.run (s.length + 2) { cursor := { rest := s } }

end TokenStream

end RichText.Yaml
