import RichText.Url.Host

/-!
# Url/Split — the parts of a URL

A URL is read as scheme, authority, path, parameters of the last path segment, query and fragment.
Controls and blanks in front of it and tabs and line ends anywhere in it are dropped first.
-/

namespace RichText

/-- **The parts of a URL**; a part that is missing is empty. -/
structure Url where
  scheme : Text
  authority : Text
  path : Text
  parameters : Text
  query : Text
  fragment : Text
  deriving DecidableEq, Inhabited

namespace Url

/-- Schemes whose URLs may be relative. -/
def relativeSchemes : List String :=
  ["", "ftp", "http", "gopher", "nntp", "imap", "wais", "file", "https", "shttp", "mms",
    "prospero", "rtsp", "rtsps", "rtspu", "sftp", "svn", "svn+ssh", "ws", "wss"]

/-- Schemes whose URLs have an authority. -/
def authoritySchemes : List String :=
  ["", "ftp", "http", "gopher", "nntp", "telnet", "imap", "wais", "file", "mms", "https", "shttp",
    "snews", "prospero", "rtsp", "rtsps", "rtspu", "rsync", "svn", "svn+ssh", "sftp", "nfs", "git",
    "git+ssh", "ws", "wss"]

/-- Schemes whose last path segment may have parameters. -/
def parameterSchemes : List String :=
  ["", "ftp", "hdl", "prospero", "http", "imap", "https", "shttp", "rtsp", "rtsps", "rtspu", "sip",
    "sips", "mms", "sftp", "tel"]

/-- Whether a scheme is in a list. -/
def schemeIn (schemes : List String) (scheme : Text) : Bool :=
  schemes.any fun s => Text.ofString s == scheme

/-- A code point a scheme may have. -/
def isSchemeMark (c : CodePoint) : Bool :=
  c.isAlphanum || c == .char '+' || c == .char '-' || c == .char '.'

/-- The text without the code points that URLs are written without. -/
def cleaned (t : Text) : Text :=
  (t.dropWhile (·.code ≤ 0x20)).filter fun c =>
    c != .char '\t' && c != .char '\r' && c != .char '\n'

/-- An ASCII code point in lower case. -/
def asciiLower : CodePoint → CodePoint
  | .char c => .char c.toLower
  | c => c

/-- The scheme in front of a URL and what follows its colon. -/
def splitScheme (standard t : Text) : Text × Text :=
  match cutAt (.char ':') t with
  | (first :: name, some rest) =>
    if first.isLetter && name.all isSchemeMark then ((first :: name).map asciiLower, rest)
    else (standard, t)
  | _ => (standard, t)

/-- The authority behind two slashes and what follows it. -/
def splitAuthority : Text → Text × Text
  | .char '/' :: .char '/' :: rest =>
    rest.span fun c => c != .char '/' && c != .char '?' && c != .char '#'
  | t => ([], t)

/-- The path without the parameters of its last segment, and these. -/
def splitParameters (path : Text) : Text × Text :=
  let last := (path.reverse.takeWhile (· ≠ .char '/')).reverse
  let before := path.take (path.length - last.length)
  match cutAt (.char ';') last with
  | (segment, some parameters) => (before ++ segment, parameters)
  | _ => (path, [])

/-- **The parts of a URL** with `standard` for a scheme that is not given. -/
def split (standard t : Text) : Except UrlError Url :=
  let (scheme, rest) := splitScheme standard (cleaned t)
  let (authority, rest) := splitAuthority rest
  match bracketError? authority with
  | some e => .error e
  | none =>
    let (rest, fragment) := cutAt (.char '#') rest
    let (path, query) := cutAt (.char '?') rest
    match lookalikeError? authority with
    | some e => .error e
    | none =>
      let (path, parameters) :=
        if schemeIn parameterSchemes scheme then splitParameters path else (path, [])
      .ok ⟨scheme, authority, path, parameters, query.getD [], fragment.getD []⟩

/-- The text of the parts of a URL. -/
def text (u : Url) : Text :=
  let path := if u.parameters.isEmpty then u.path else u.path ++ ";" ++ u.parameters
  let rooted :=
    if !u.authority.isEmpty || (!u.scheme.isEmpty && schemeIn authoritySchemes u.scheme)
        || path.take 2 == [.char '/', .char '/'] then
      (if path.isEmpty || path.head? == some (.char '/') then path else "/" ++ path)
        |> fun p => "//" ++ u.authority ++ p
    else path
  (if u.scheme.isEmpty then rooted else u.scheme ++ ":" ++ rooted)
    ++ (if u.query.isEmpty then [] else .char '?' :: u.query)
    ++ (if u.fragment.isEmpty then [] else .char '#' :: u.fragment)

end Url

end RichText
