import RichText.Url.Split

/-!
# Url/Join — relative URLs

The URL a reference stands for when it is read in a document at a base URL: segments of the path are
taken from the directory of the base, and every `..` takes one segment away, as long as there is one.
-/

namespace RichText.Url

/-- The segments a path goes through, where `..` takes away the segment before it. -/
def settled (segments : List Text) : List Text :=
  segments.foldl (fun done s =>
    if s == [.char '.', .char '.'] then done.dropLast
    else if s == [.char '.'] then done
    else done ++ [s]) []

/-- The list without the empty texts that are neither first nor last. -/
def withoutInnerBlanks : List Text → List Text
  | first :: rest =>
    first :: rest.dropLast.filter (fun s => !s.isEmpty) ++ rest.getLast?.toList
  | [] => []

/-- The segments of a relative path behind those of the base path's directory. -/
def mergedSegments (base path : Text) : List Text :=
  if path.head? == some (.char '/') then List.splitOn (.char '/') path
  else
    let parts := List.splitOn (.char '/') base
    let directory := if parts.getLast? == some [] then parts else parts.dropLast
    withoutInnerBlanks (directory ++ List.splitOn (.char '/') path)

/-- The path of a reference with path `path` at a base with path `base`. -/
def mergedPath (base path : Text) : Text :=
  let segments := mergedSegments base path
  let done := settled segments
  let closed := match segments.getLast? with
    | some s => if s == [.char '.'] || s == [.char '.', .char '.'] then done ++ [[]] else done
    | none => done
  match Path.joinNames closed with
  | [] => "/"
  | t => t

/-- **The URL of a reference in a document at a base URL.** -/
def join (base reference : Text) : Except UrlError Text :=
  if base.isEmpty then .ok reference
  else if reference.isEmpty then .ok base
  else do
    let b ← split [] base
    let r ← split b.scheme reference
    if r.scheme != b.scheme || !schemeIn relativeSchemes r.scheme then return reference
    else if schemeIn authoritySchemes r.scheme && !r.authority.isEmpty then return r.text
    else
      let authority := if schemeIn authoritySchemes r.scheme then b.authority else r.authority
      if r.path.isEmpty && r.parameters.isEmpty then
        return Url.text ⟨r.scheme, authority, b.path, b.parameters,
          if r.query.isEmpty then b.query else r.query, r.fragment⟩
      else
        return Url.text ⟨r.scheme, authority, mergedPath b.path r.path, r.parameters, r.query,
          r.fragment⟩

end RichText.Url
