import RichText.Text.Quoted
import RichText.FileSystem.Path

/-!
# Url/Host — hosts between brackets

Brackets in the authority of a URL have to hold an IPv6 address or an address of a later version, and
no character may turn into a delimiter when the host is normalised.
-/

namespace RichText

/-- Characters of Unicode 14 whose compatibility decomposition holds a slash, question mark, number sign,
at sign or colon, so that normalisation turns them into a delimiter of a URL. -/
def Table.delimiterLookalikes : List Nat :=
  [0x2047, 0x2048, 0x2049, 0x2100, 0x2101, 0x2105, 0x2106, 0x2A74, 0xFE13, 0xFE16,
   0xFE55, 0xFE56, 0xFE5F, 0xFE6B, 0xFF03, 0xFF0F, 0xFF1A, 0xFF1F, 0xFF20]

/-- Why a text is no URL. -/
inductive UrlError
  | unpairedBracket
  | noAddress (host : Text)
  | futureAddress
  | bracketedIPv4
  | lookalike (authority : Text)
  deriving DecidableEq

namespace UrlError

/-- The wording of an error. -/
def message : UrlError → Text
  | unpairedBracket => "Invalid IPv6 URL"
  | noAddress host => host.quoted ++ " does not appear to be an IPv4 or IPv6 address"
  | futureAddress => "IPvFuture address is invalid"
  | bracketedIPv4 => "An IPv4 address cannot be in brackets"
  | lookalike authority =>
    "netloc '" ++ authority ++ "' contains invalid characters under NFKC normalization"

end UrlError

namespace Url

/-- A number from 0 to 255 in decimal, without leading zeros. -/
def isOctet (t : Text) : Bool :=
  !t.isEmpty && t.all (·.isDigit) && t.length ≤ 3
    && (t == [.char '0'] || t.head? != some (.char '0')) && Text.toNat t ≤ 255

/-- Four numbers with points between them. -/
def isIPv4 (t : Text) : Bool :=
  let parts := List.splitOn (.char '.') t
  parts.length == 4 && parts.all isOctet

/-- One to four hexadecimal digits. -/
def isHextet (t : Text) : Bool :=
  !t.isEmpty && t.length ≤ 4 && t.all (·.isHexDigit)

/-- The places of the empty parts that are neither first nor last. -/
def innerGaps (parts : List Text) : List Nat :=
  (List.range parts.length).filter fun i =>
    0 < i && i + 1 < parts.length && (parts[i]?.map List.isEmpty).getD false

/-- The groups of an IPv6 address: eight, or fewer with one gap for those left out.  An empty group at
an end is allowed only next to the gap. -/
def isGroups (parts : List Text) : Bool :=
  let emptyFirst := (parts.head?.map List.isEmpty).getD true
  let emptyLast := (parts.getLast?.map List.isEmpty).getD true
  match innerGaps parts with
  | [] => parts.length == 8 && parts.all isHextet
  | [gap] =>
    let before := parts.take gap
    let after := parts.drop (gap + 1)
    let before' := if emptyFirst then [] else before
    let after' := if emptyLast then [] else after
    (!emptyFirst || gap == 1) && (!emptyLast || after.length == 1)
      && before'.length + after'.length < 8 && before'.all isHextet && after'.all isHextet
  | _ => false

/-- The text before the first occurrence of a code point, and the text behind it if there is one. -/
def cutAt (mark : CodePoint) (t : Text) : Text × Option Text :=
  match t.span (· ≠ mark) with
  | (before, _ :: after) => (before, some after)
  | (before, []) => (before, none)

/-- An IPv6 address, with or without a zone; its last two groups may be written as an IPv4
address. -/
def isIPv6 (t : Text) : Bool :=
  let (address, zone) := cutAt (.char '%') t
  let zoneFits := match zone with
    | none => true
    | some z => !z.isEmpty && !z.contains (.char '%')
  let parts := List.splitOn (.char ':') address
  let groups : Option (List Text) := match parts.getLast? with
    | some last =>
      if last.contains (.char '.') then
        if isIPv4 last then some (parts.dropLast ++ [("0" : Text), ("0" : Text)]) else none
      else some parts
    | none => none
  zoneFits && 3 ≤ parts.length && !t.contains (.char '/')
    && (groups.map fun g => g.length ≤ 9 && isGroups g).getD false

/-- An address of a later version: `v`, hexadecimal digits, a point and something behind it. -/
def isFutureAddress : Text → Bool
  | .char 'v' :: rest =>
    match rest.span (·.isHexDigit) with
    | ([], _) => false
    | (_, .char '.' :: c :: more) => (c :: more).all (· ≠ .char '\n')
    | _ => false
  | _ => false

/-- What is wrong with a host between brackets. -/
def bracketedHostError? (host : Text) : Option UrlError :=
  if host.head? == some (.char 'v') then
    if isFutureAddress host then none else some .futureAddress
  else if isIPv4 host then some .bracketedIPv4
  else if isIPv6 host then none
  else some (.noAddress host)

/-- What is wrong with an authority as far as brackets go. -/
def bracketError? (authority : Text) : Option UrlError :=
  let opening := authority.contains (.char '[')
  let closing := authority.contains (.char ']')
  if opening != closing then some .unpairedBracket
  else if opening then
    let behind := ((cutAt (.char '[') authority).2).getD []
    bracketedHostError? (cutAt (.char ']') behind).1
  else none

/-- An authority with a character that normalises to a delimiter. -/
def lookalikeError? (authority : Text) : Option UrlError :=
  if authority.any fun c => Table.delimiterLookalikes.contains c.code then
    some (.lookalike authority)
  else none

end Url

end RichText
