import RichText.FileSystem.Path
import RichText.Text.Case

/-!
# Image/Format — image formats

A format is named by the suffix that files of it have.  Data URIs name formats by media type.
-/

namespace RichText.Image

/-- Formats that a path may have. -/
def pathFormats : List String :=
  ["png", "jpeg", "jpg", "gif", "webp", "svg", "bmp", "tiff", "tif", "ico"]

/-- Media types with the formats they name. -/
def mediaTypes : List (String × String) :=
  [("image/png", "png"), ("image/jpeg", "jpg"), ("image/jpg", "jpg"), ("image/gif", "gif"),
    ("image/webp", "webp"), ("image/svg+xml", "svg"), ("image/bmp", "bmp"),
    ("image/tiff", "tiff")]

/-- The format a media type names. -/
def formatOfMediaType? (type : Text) : Option Text :=
  (mediaTypes.find? fun e => Text.ofString e.1 == type).map fun e => e.2

/-- The format the suffix of a path names. -/
def formatOfPath? (p : Path) : Option Text :=
  let suffix := p.suffix.lower.dropWhile (· = .char '.')
  if pathFormats.any fun f => Text.ofString f == suffix then some suffix else none

/-- The control word that a picture of a format is written with, where there is one. -/
def blip? (format : Text) : Option Text :=
  if format == "png" then some "\\pngblip"
  else if format == "jpg" || format == "jpeg" then some "\\jpegblip"
  else none

end RichText.Image
