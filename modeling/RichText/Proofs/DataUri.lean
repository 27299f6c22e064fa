import RichText.Proofs.Ascii
import RichText.Proofs.Base64
import RichText.Proofs.Embedding

/-!
# Proofs/DataUri — images that are spelled in their own address

    data: TYPE ;base64, the spelling of BYTES
      ├─ no more bytes than the limit ─▸ a picture with the digits of BYTES
      └─ more than that ───────────────▸ a link to the address, or a failure

Whatever bytes an image has, its address is taken apart where it was put together (`uriParts?_dataUri`),
and the bytes come back from their spelling.  The digits of the picture spell them once more.
-/

namespace RichText

open Text

namespace Image

/-- **The address that spells bytes** under a media type. -/
def dataUri (type : List Char) (bytes : List UInt8) : Text :=
  "data:" ++ (ofChars type ++ (";base64," ++ Base64.encode bytes))

/-- Media types of images that can be pictures, in lower case, with the control words of the pictures. -/
def pictureTypes : List (String × String) :=
  [("image/png", "\\pngblip"), ("image/jpeg", "\\jpegblip"), ("image/jpg", "\\jpegblip")]

/-- **A media type in any case** that has pictures with a control word. -/
def IsPictureType (type : List Char) (blip : String) : Prop :=
  ∃ name, (name, blip) ∈ pictureTypes ∧ type.map Char.toLower = name.toList

instance (type : List Char) (blip : String) : Decidable (IsPictureType type blip) :=
  decidable_of_iff (∃ e ∈ pictureTypes, e.2 = blip ∧ type.map Char.toLower = e.1.toList)
    ⟨fun ⟨e, he, hblip, hname⟩ => ⟨e.1, hblip ▸ he, hname⟩,
      fun ⟨name, hname, heq⟩ => ⟨(name, blip), hname, rfl, heq⟩⟩

/-! ## Media types -/

/-- A character that media types of pictures are written with. -/
def isTypeChar (c : Char) : Bool := c.isAlpha || c == '/'

/-- Such a character is not changed by lower case, or is a capital letter. -/
theorem isTypeChar_of_toLower {c : Char} (h : isTypeChar c.toLower = true) :
    isTypeChar c = true := by
  rw [Char.toLower] at h
  split at h
  · next hupper =>
    have hupper : c.isUpper = true := decide_eq_true hupper
    rw [isTypeChar, Char.isAlpha, hupper]
    rfl
  · exact h

theorem toNat_lt_of_isTypeChar {c : Char} (h : isTypeChar c = true) : c.toNat < 128 := by
  obtain h | h := Bool.or_eq_true_iff.mp h
  · have hcode := CodePoint.code_of_isLetter (c := .char c) h
    simp only [CodePoint.code] at hcode
    omega
  · rw [beq_iff_eq.mp h]
    decide

/-- What holds of the characters of media types is seen by trying them. -/
theorem of_isTypeChar {p : Char → Bool}
    (hp : ∀ n : Fin 128, isTypeChar (Char.ofNat n) = true → p (Char.ofNat n) = true) {c : Char}
    (h : isTypeChar c = true) : p c = true := by
  have hc := hp ⟨c.toNat, toNat_lt_of_isTypeChar h⟩
  rw [Char.ofNat_toNat] at hc
  exact hc h

variable {type : List Char} {blip : String}

theorem IsPictureType.isTypeChar (h : IsPictureType type blip) {c : Char} (hc : c ∈ type) :
    isTypeChar c = true := by
  have key : ∀ e ∈ pictureTypes, e.1.toList.all Image.isTypeChar = true := by
    simp only [pictureTypes, List.forall_mem_cons]
    exact ⟨rfl, rfl, rfl, nofun⟩
  obtain ⟨name, hname, heq⟩ := h
  exact isTypeChar_of_toLower (List.all_eq_true.mp (key _ hname) _ (heq ▸ List.mem_map_of_mem hc))

/-- **A media type is of letters and slashes**: what holds of these holds of its code points. -/
theorem IsPictureType.forall_mem (h : IsPictureType type blip) {p : CodePoint → Bool}
    (hp : ∀ n : Fin 128, Image.isTypeChar (Char.ofNat n) = true → p (.char (Char.ofNat n)) = true) :
    ∀ c ∈ ofChars type, p c = true := by
  intro c hc
  obtain ⟨x, hx, rfl⟩ := List.mem_map.mp hc
  exact of_isTypeChar (p := fun c => p (.char c)) hp (h.isTypeChar hx)

theorem IsPictureType.ne_nil (h : IsPictureType type blip) : type ≠ [] := by
  have key : ∀ e ∈ pictureTypes, e.1.toList ≠ [] := by
    simp only [pictureTypes, List.forall_mem_cons]
    exact ⟨by decide, by decide, by decide, nofun⟩
  obtain ⟨name, hname, heq⟩ := h
  rintro rfl
  exact key _ hname heq.symm

/-- A format is what a media type names, and what its pictures are written with. -/
theorem exists_formatOfMediaType? (h : IsPictureType type blip) :
    ∃ format, formatOfMediaType? (ofChars (type.map Char.toLower)) = some format
      ∧ blip? format = some (ofString blip) := by
  have key : ∀ e ∈ pictureTypes, ∃ format, formatOfMediaType? e.1 = some format
      ∧ blip? format = some (ofString e.2) := by
    simp only [pictureTypes, List.forall_mem_cons]
    exact ⟨⟨_, rfl, rfl⟩, ⟨_, rfl, rfl⟩, ⟨_, rfl, rfl⟩, nofun⟩
  obtain ⟨name, hname, heq⟩ := h
  have hformat := key (name, blip) hname
  rwa [ofString, ← heq] at hformat

end Image

namespace Text

/-! ## Blanks and case -/

theorem dropWhile_eq_self {p : CodePoint → Bool} {t : Text} (h : ∀ c ∈ t, p c = false) :
    t.dropWhile p = t := by
  cases t with
  | nil => rfl
  | cons c rest => rw [List.dropWhile_cons, h c List.mem_cons_self, if_neg Bool.false_ne_true]

/-- A text without blanks has none at its ends. -/
theorem trim_eq_self {t : Text} (h : ∀ c ∈ t, c.isBlank = false) : t.trim = t := by
  rw [trim, dropWhile_eq_self h, dropWhile_eq_self fun c hc => h c (List.mem_reverse.mp hc),
    List.reverse_reverse]

/-- Lower case goes character by character in ASCII. -/
theorem lowerFrom_ofChars {cs : List Char} (h : IsAscii (ofChars cs)) (before : Text) :
    lowerFrom before (ofChars cs) = ofChars (cs.map Char.toLower) := by
  induction cs generalizing before with
  | nil => rfl
  | cons c rest ih =>
    obtain ⟨hc, hrest⟩ := List.forall_mem_cons.mp h
    have hcode : c.toNat < 0x80 := of_decide_eq_true hc
    have hsigma : ((CodePoint.char c).code == 0x3A3) = false :=
      beq_eq_false_iff_ne.mpr fun heq => by rw [CodePoint.code] at heq; omega
    have hlower : (CodePoint.char c).lower = [.char c.toLower] := if_pos hcode
    rw [ofChars, List.map_cons, lowerFrom, hsigma, if_neg Bool.false_ne_true, hlower]
    exact congrArg _ (ih hrest _)

end Text

namespace Image

variable {type : List Char} {blip : String} {bytes : List UInt8}

theorem IsPictureType.isAscii (h : IsPictureType type blip) : IsAscii (ofChars type) :=
  h.forall_mem (p := CodePoint.isAscii) (by decide)

theorem IsPictureType.trim_eq (h : IsPictureType type blip) :
    (ofChars type).trim = ofChars type := by
  have hblank := h.forall_mem (p := fun c => !c.isBlank) (by decide +kernel)
  exact trim_eq_self fun c hc => Bool.not_eq_true' _ ▸ hblank c hc

/-! ## Addresses -/

theorem after?_append (start t : Text) : after? start (start ++ t) = some t := by
  rw [after?, if_pos (List.isPrefixOf_iff_prefix.mpr (List.prefix_append start t)),
    List.drop_left]

theorem isDataUri_dataUri (type : List Char) (bytes : List UInt8) :
    isDataUri (dataUri type bytes) = true := by
  rw [isDataUri, dataUri, after?_append]
  rfl

/-- **An address is taken apart where it was put together.** -/
theorem uriParts?_dataUri (h : IsPictureType type blip) (hbytes : bytes ≠ []) :
    uriParts? (dataUri type bytes) = some (ofChars type, Base64.encode bytes) := by
  have hspan : (ofChars type ++ (";base64," ++ Base64.encode bytes)).span
      (fun c => c != .char ';' && c != .char ',')
        = (ofChars type, ";base64," ++ Base64.encode bytes) :=
    span_append (h.forall_mem (by decide)) (by rintro _ ⟨⟩; rfl)
  have htype : (ofChars type).isEmpty = false := by
    rw [List.isEmpty_eq_false_iff, ofChars, Ne, List.map_eq_nil_iff]
    exact h.ne_nil
  have hdata : (Base64.encode bytes).isEmpty = false :=
    List.isEmpty_eq_false_iff.mpr (Base64.encode_ne_nil hbytes)
  rw [uriParts?, dataUri, after?_append]
  dsimp only [bind, Option.bind]
  rw [hspan]
  dsimp only
  rw [after?_append]
  dsimp only
  rw [htype, hdata, Bool.or_false, if_neg Bool.false_ne_true]

/-- **The bytes and the format of an image are read back from its address.** -/
theorem decodeUri_dataUri (h : IsPictureType type blip) (hbytes : bytes ≠ []) :
    ∃ format, decodeUri (dataUri type bytes) = .ok (bytes, format)
      ∧ blip? format = some (ofString blip) := by
  obtain ⟨format, hformat, hblip⟩ := exists_formatOfMediaType? h
  have hdata : (Base64.encode bytes).trim = Base64.encode bytes :=
    trim_eq_self fun c hc => (Base64.isSpelling_of_mem_encode hc).isBlank
  refine ⟨format, ?_, hblip⟩
  rw [decodeUri, isDataUri_dataUri, Bool.not_true, if_neg Bool.false_ne_true, uriParts?_dataUri h hbytes]
  dsimp only
  rw [h.trim_eq, lower, lowerFrom_ofChars h.isAscii, hformat]
  dsimp only
  rw [hdata, Base64.decode_encode]

end Image

/-! ## Fields that lead to addresses -/

namespace Url

/-- A code point that a quoted address has as it is. -/
def isPlain (c : CodePoint) : Bool := c.isAscii && isSafe (.ofNat c.code)

theorem quoteByte_of_isPlain {c : CodePoint} (h : isPlain c = true) :
    quoteByte (.ofNat c.code) = [c] := by
  obtain ⟨hc, hsafe⟩ := Bool.and_eq_true_iff.mp h
  have hcode : c.code < 0x80 := of_decide_eq_true hc
  cases c with
  | char x =>
    have hx : (UInt8.ofNat x.toNat).toNat = x.toNat :=
      UInt8.toNat_ofNat_of_lt' (by simp only [CodePoint.code] at hcode; simp only [UInt8.size]; omega)
    rw [quoteByte, hsafe, if_pos rfl, CodePoint.code, hx, Char.ofNat_toNat]
  | high _ => simp only [CodePoint.code] at hcode; omega
  | low _ => simp only [CodePoint.code] at hcode; omega

/-- **An address of plain code points is quoted as it is.** -/
theorem quote_of_isPlain {t : Text} (h : ∀ c ∈ t, isPlain c = true) :
    quote (.text t) = .ok ("\"" ++ t ++ "\"") := by
  have hascii : IsAscii t := fun c hc => (Bool.and_eq_true_iff.mp (h c hc)).1
  have hbytes : quoteBytes t.asciiBytes = t := by
    rw [quoteBytes, asciiBytes, List.flatMap_map,
      List.flatMap_congr fun c hc => quoteByte_of_isPlain (h c hc)]
    exact List.flatMap_singleton' t
  rw [quote, hascii.toUtf8_eq]
  dsimp only [bind, Except.bind, pure, Except.pure]
  rw [fieldArgument, hbytes]

end Url

namespace Image

variable {type : List Char} {blip : String}

/-- Nothing in an address that spells bytes is quoted. -/
theorem isPlain_of_mem_dataUri (h : IsPictureType type blip) {bytes : List UInt8} :
    ∀ c ∈ dataUri type bytes, Url.isPlain c = true := by
  have hspelling : ∀ c ∈ Base64.encode bytes, Url.isPlain c = true := fun c hc =>
    (Base64.isSpelling_of_mem_encode hc).of_forall (by decide) (by decide)
  have hdata : ∀ c ∈ Text.ofString "data:", Url.isPlain c = true := by decide
  have hbase64 : ∀ c ∈ Text.ofString ";base64,", Url.isPlain c = true := by decide
  exact List.forall_mem_append.mpr ⟨hdata, List.forall_mem_append.mpr
    ⟨h.forall_mem (by decide), List.forall_mem_append.mpr ⟨hbase64, hspelling⟩⟩⟩

end Image

namespace Leaf

/-- The RTF of the link that stands for an image, given by its address and alternative text. -/
def linkText (mode : Rtf.UnicodeMode) (address : Text) (alt : Value) : Text :=
  "\x7b\\field\x7b\\*\\fldinst\x7bHYPERLINK " ++ ("\"" ++ address ++ "\"") ++ "\x7d\x7d\x7b\\fldrslt "
    ++ Rtf.escape mode (alt.text?.getD []) ++ "\x7d\x7d"

/-- Without a base, **the link of an image** leads to a plain address as it is. -/
theorem imageLink_of_isPlain {context : RenderContext} (hbase : context.baseUrl.truthy = false)
    {address : Text} (h : ∀ c ∈ address, Url.isPlain c = true) {alt : Value}
    (halt : alt = .null ∨ alt.IsText) :
    imageLink context (.text address) alt
      = .ok (.text (linkText context.unicodeMode address alt)) := by
  have hlink : Rtf.hyperlink context (.text address) = .ok
      ⟨"\x7b\\field\x7b\\*\\fldinst\x7bHYPERLINK " ++ ("\"" ++ address ++ "\"")
        ++ "\x7d\x7d\x7b\\fldrslt ", "\x7d\x7d"⟩ := by
    rw [Rtf.hyperlink, Url.resolve_of_not_truthy hbase]
    dsimp only [bind, Except.bind]
    rw [Url.quote_of_isPlain h]
    rfl
  rw [imageLink, hlink, linkText]
  obtain rfl | ⟨t, rfl⟩ := halt <;> rfl

end Leaf

/-! ## Pictures -/

namespace Rtf

/-- The control word of a size in pixels, in twips; a size of zero is not written. -/
def goal (word : Text) (pixels : Int) : Text :=
  if pixels = 0 then [] else word ++ ofInt (pixels * 15)

/-- **The group of a picture** with a control word, sizes in pixels and hexadecimal digits. -/
def pictureGroup (blip : String) (width height : Int) (digits : Text) : Text :=
  "\x7b\\*\\shppict\x7b\\pict" ++ blip ++ goal "\\picwgoal" width ++ goal "\\pichgoal" height
    ++ " " ++ digits ++ "\x7d\x7d"

theorem truthy_of_int? {v : Value} {i : Int} (h : v.int? = some i) : v.truthy = decide (i ≠ 0) := by
  cases v with
  | int j =>
    cases h
    rw [Value.truthy, decide_not]
    rfl
  | bool b => cases h; cases b <;> rfl
  | _ => cases h

/-- The word of a size that is an integer or not given, if its twips can be written. -/
theorem pictureLength_eq (word : Text) {v : Value} (hv : v = .null ∨ v.IsInt)
    (hfits : v.fitsTwips = true) : pictureLength word v = .ok (goal word (v.int?.getD 0)) := by
  obtain rfl | ⟨i, hi⟩ := hv
  · rfl
  · have hshort : (i * 15).natAbs < Nat.pow 10 digitLimit := (Value.fitsTwips_of_int? hi).mp hfits
    rw [pictureLength, truthy_of_int? hi, hi, Option.getD_some, goal]
    by_cases hzero : i = 0
    · rw [if_pos hzero, if_neg (by simpa using hzero)]
    · rw [if_neg hzero, if_pos (decide_eq_true hzero), twips_of_int? hi]
      dsimp only [bind, Except.bind]
      rw [if_pos hshort]
      rfl

theorem picture_eq {bytes : List UInt8} {format : Text} {blip : String}
    (hblip : Image.blip? format = some (ofString blip)) {width height : Value}
    (hwidth : width = .null ∨ width.IsInt) (hheight : height = .null ∨ height.IsInt)
    (hw : width.fitsTwips = true) (hh : height.fitsTwips = true) :
    picture ⟨bytes, format⟩ width height
      = .ok (pictureGroup blip (width.int?.getD 0) (height.int?.getD 0) (ofBytes bytes)) := by
  rw [picture, pictureLength_eq _ hwidth hw, pictureLength_eq _ hheight hh, hblip]
  rfl

end Rtf

/-! ## Loading -/

namespace ImageLoader

variable {loader : ImageLoader} {type : List Char} {blip : String} {bytes : List UInt8}

/-- A whole limit is compared as a number. -/
theorem isBelow_of_int? {limit : Value} {i : Int} (h : limit.int? = some i) (n : Nat) :
    limit.isBelow n = .ok (decide (i < n)) := by
  cases limit with
  | int j => cases h; rfl
  | bool b => cases h; rfl
  | _ => cases h

/-- **What is spelled in an address is loaded**, if it is not too large. -/
theorem load_dataUri (fs : FileSystem) (h : Image.IsPictureType type blip) (hbytes : bytes ≠ [])
    {tooLarge : Bool} (hsize : loader.limit.isBelow bytes.length = .ok tooLarge) :
    ∃ format, Image.blip? format = some (ofString blip)
      ∧ loader.load fs (.text (Image.dataUri type bytes))
        = ⟨[], if tooLarge then .error (.invalid (.imageSize "data URI" bytes.length loader.limit))
            else .ok (some ⟨bytes, format⟩)⟩ := by
  obtain ⟨format, hdecode, hblip⟩ := Image.decodeUri_dataUri h hbytes
  refine ⟨format, hblip, ?_⟩
  rw [load, Image.isDataUri_dataUri, if_pos rfl, loadUri, hdecode]
  dsimp only
  rw [hblip, Option.isNone_some, if_neg Bool.false_ne_true, checkSize, hsize]
  cases tooLarge <;> rfl

end ImageLoader

namespace Leaf

variable {fs : FileSystem} {context : RenderContext} {loader : ImageLoader}
  {alt title width height metadata : Value} {address : Text}

/-- An image that is loaded is its picture. -/
theorem rule_image_of_loaded (hloader : context.imageLoader = some loader) {source : EmbeddedImage}
    (hload : loader.load fs (.text address) = ⟨[], .ok (some source)⟩) :
    rule fs context (.image (.text address) alt title width height metadata)
      = ⟨[], (Rtf.picture source width height).map .text⟩ := by
  have hnull : (Value.text address).isNull = false := rfl
  rw [rule, hnull, if_neg Bool.false_ne_true, hloader]
  dsimp only
  rw [embedded?, hload]
  dsimp only
  cases Rtf.picture source width height <;> rfl

/-- The failure of a rendering that takes a problem of an image for an error. -/
def embeddingError (address : Text) (cause : Failure) : Failure :=
  .rendering (.text ("Failed to embed image " ++ (Notice.shortened (.text address)).shown ++ ": "
    ++ cause.quoted)) (.text "image_processing") (some cause)

/-- An image that is not loaded is a link to it, or an error. -/
theorem rule_image_of_problem (hloader : context.imageLoader = some loader) {cause : Failure}
    (hload : loader.load fs (.text address) = ⟨[], .error cause⟩)
    (hcause : cause.isImageProblem = true) {link : Text}
    (hlink : imageLink context (.text address) alt = .ok (.text link)) :
    rule fs context (.image (.text address) alt title width height metadata)
      = ⟨[.embeddingFailed (.text address) cause],
        if context.failOnResourceErrors.truthy then .error (embeddingError address cause)
        else .ok (.text link)⟩ := by
  have hnull : (Value.text address).isNull = false := rfl
  rw [rule, hnull, if_neg Bool.false_ne_true, hloader]
  dsimp only
  rw [embedded?, hload]
  dsimp only
  rw [hcause, Bool.not_true, if_neg Bool.false_ne_true]
  cases context.failOnResourceErrors.truthy with
  | true => rfl
  | false =>
    rw [if_neg Bool.false_ne_true, if_neg Bool.false_ne_true]
    dsimp only [bind, Outcome.andThen]
    rw [hlink]
    rfl

end Leaf

/-! ## Images alone and in trees -/

/-- **Options that embed images**, whether or not problems of images are errors. -/
structure RtfOptions.Embeds (o : RtfOptions) : Prop where
  embeds : o.embedImages.truthy = true
  directory : o.sourceDirectory = .null ∨ o.sourceDirectory.IsText
  limit : Options.checkAssetSize o.maxAssetSize = .ok ()

namespace Conversion

variable {fs : FileSystem} {o : RtfOptions} {loader : ImageLoader}

/-- A leaf alone is what its rule gives. -/
theorem render_leaf (ho : o.Embeds)
    (hcreate : ImageLoader.create fs o.sourceDirectory o.maxAssetSize = .ok loader) (l : Leaf) :
    render fs (.leaf l) (some (.rtf o)) [] = do
      let rendered ← l.rule fs (embedding o loader)
      Outcome.note .renderingDone
      return rendered := by
  rw [render_rtf, renderWith_embedding ho.embeds hcreate]
  rfl

/-- **In any tree, a passage has the RTF that its node has alone.** -/
theorem render_of_mem_passages (ho : o.Embeds)
    (hcreate : ImageLoader.create fs o.sourceDirectory o.maxAssetSize = .ok loader) {root : Node}
    {t : Text} (h : (render fs root (some (.rtf o)) []).result = .ok (.text t)) {p : Passage}
    (hp : p ∈ root.passages fs (embedding o loader) [] []) :
    p.before ++ p.own <+: t
      ∧ (render fs p.node (some (.rtf o)) []).result = .ok (.text p.own) := by
  rw [render_rtf, renderWith_embedding ho.embeds hcreate] at h ⊢
  obtain ⟨rendered, hrender, hdone⟩ := Outcome.result_bind_eq_ok.mp h
  cases hdone
  have hstands := Walk.stands_of_render hrender hp
  exact ⟨hstands.own_le, Outcome.result_bind_eq_ok.mpr ⟨_, hstands.render_eq, rfl⟩⟩

/-- An image that is not too large is its picture, if the sizes can be written. -/
theorem render_fitting (fs : FileSystem) (ho : o.Embeds) {type : List Char} {blip : String}
    (htype : Image.IsPictureType type blip) {bytes : List UInt8} (hbytes : bytes ≠ [])
    (hsize : o.maxAssetSize.isBelow bytes.length = .ok false) (alt title metadata : Value)
    {width height : Value} (hwidth : width = .null ∨ width.IsInt)
    (hheight : height = .null ∨ height.IsInt) :
    render fs (.leaf (.image (.text (Image.dataUri type bytes)) alt title width height metadata))
        (some (.rtf o)) []
      = if width.fitsTwips && height.fitsTwips then
          ⟨[.renderingDone], .ok (.text (Rtf.pictureGroup blip (width.int?.getD 0)
            (height.int?.getD 0) (ofBytes bytes)))⟩
        else ⟨[], .error (.invalid .digitsWritten)⟩ := by
  obtain ⟨loader, hcreate, hlimit⟩ : ∃ loader,
      ImageLoader.create fs o.sourceDirectory o.maxAssetSize = .ok loader
        ∧ loader.limit = o.maxAssetSize := exists_create ho.directory
  obtain ⟨format, hblip, hload⟩ := ImageLoader.load_dataUri fs htype hbytes (hlimit ▸ hsize)
  rw [if_neg Bool.false_ne_true] at hload
  rw [render_leaf ho hcreate, Leaf.rule_image_of_loaded rfl hload]
  have hends := Rtf.picture_endsIn ⟨bytes, format⟩ hwidth hheight
  cases hw : width.fitsTwips with
  | false =>
    rw [Rtf.sizeFault?, hw] at hends
    have hpicture := (hends.eq_error_iff _).mpr rfl
    rw [hpicture]
    rfl
  | true =>
    cases hh : height.fitsTwips with
    | false =>
      rw [Rtf.sizeFault?, hw, Rtf.sizeFault?, hh] at hends
      have hpicture := (hends.eq_error_iff _).mpr rfl
      rw [hpicture]
      rfl
    | true =>
      rw [Rtf.picture_eq hblip hwidth hheight hw hh]
      rfl

/-- An image that is too large is a link to its address, or an error. -/
theorem render_tooLarge (fs : FileSystem) (ho : o.Embeds) (hbase : o.baseUrl.truthy = false)
    {type : List Char} {blip : String} (htype : Image.IsPictureType type blip)
    {bytes : List UInt8} (hbytes : bytes ≠ [])
    (hsize : o.maxAssetSize.isBelow bytes.length = .ok true) {alt : Value}
    (halt : alt = .null ∨ alt.IsText) (title width height metadata : Value) :
    let uri := Image.dataUri type bytes
    let cause : Failure := .invalid (.imageSize "data URI" bytes.length o.maxAssetSize)
    render fs (.leaf (.image (.text uri) alt title width height metadata)) (some (.rtf o)) []
      = if o.failOnResourceErrors.truthy then
          ⟨[.embeddingFailed (.text uri) cause], .error (Leaf.embeddingError uri cause)⟩
        else ⟨[.embeddingFailed (.text uri) cause, .renderingDone],
          .ok (.text (Leaf.linkText o.unicodeMode uri alt))⟩ := by
  obtain ⟨loader, hcreate, hlimit⟩ : ∃ loader,
      ImageLoader.create fs o.sourceDirectory o.maxAssetSize = .ok loader
        ∧ loader.limit = o.maxAssetSize := exists_create ho.directory
  obtain ⟨format, hblip, hload⟩ := ImageLoader.load_dataUri fs htype hbytes (hlimit ▸ hsize)
  rw [if_pos rfl, hlimit] at hload
  have hlink : Leaf.imageLink (embedding o loader) (.text (Image.dataUri type bytes)) alt
      = .ok (.text (Leaf.linkText o.unicodeMode (Image.dataUri type bytes) alt)) :=
    Leaf.imageLink_of_isPlain hbase (Image.isPlain_of_mem_dataUri htype) halt
  intro uri cause
  rw [render_leaf ho hcreate, Leaf.rule_image_of_problem rfl hload rfl hlink]
  have hfail : (embedding o loader).failOnResourceErrors = o.failOnResourceErrors := rfl
  rw [hfail]
  cases o.failOnResourceErrors.truthy <;> rfl

/-- **An image that is spelled in its own address** is one picture, whose digits spell the same bytes,
without a warning and whether or not problems of images are errors; only sizes of too many digits are
not written.  An image that is too large is a link to its address with one warning, or an error.  In
any tree it is what it is alone. -/
theorem render_dataUri {type : List Char} {blip : String} (htype : Image.IsPictureType type blip)
    {bytes : List UInt8} (hbytes : bytes ≠ []) {width height : Value}
    (hwidth : width = .null ∨ width.IsInt) (hheight : height = .null ∨ height.IsInt)
    (ho : o.Embeds) (alt title metadata : Value) (fs : FileSystem) :
    let uri := Image.dataUri type bytes
    let image : Node := .leaf (.image (.text uri) alt title width height metadata)
    let cause : Failure := .invalid (.imageSize "data URI" bytes.length o.maxAssetSize)
    let warning : Notice := .embeddingFailed (.text uri) cause
    ∃ tooLarge, o.maxAssetSize.isBelow bytes.length = .ok tooLarge
      ∧ (∀ limit, o.maxAssetSize.int? = some limit → (tooLarge = true ↔ limit < bytes.length))
      ∧ (tooLarge = false →
        (IsShort (width.int?.getD 0 * 15) ∧ IsShort (height.int?.getD 0 * 15) →
          ∃ digits, hexBytes? digits = some bytes
            ∧ render fs image (some (.rtf o)) [] = ⟨[.renderingDone], .ok (.text
              (Rtf.pictureGroup blip (width.int?.getD 0) (height.int?.getD 0) digits))⟩)
        ∧ (¬ (IsShort (width.int?.getD 0 * 15) ∧ IsShort (height.int?.getD 0 * 15)) →
          render fs image (some (.rtf o)) [] = ⟨[], .error (.invalid .digitsWritten)⟩))
      ∧ (tooLarge = true → o.baseUrl.truthy = false → alt = .null ∨ alt.IsText →
        (o.failOnResourceErrors.truthy = false →
          render fs image (some (.rtf o)) [] = ⟨[warning, .renderingDone],
            .ok (.text (Leaf.linkText o.unicodeMode uri alt))⟩)
        ∧ (o.failOnResourceErrors.truthy = true →
          render fs image (some (.rtf o)) [] = ⟨[warning],
            .error (Leaf.embeddingError uri cause)⟩))
      ∧ ∃ loader, ImageLoader.create fs o.sourceDirectory o.maxAssetSize = .ok loader
        ∧ ∀ root t, (render fs root (some (.rtf o)) []).result = .ok (.text t) →
          ∀ p ∈ root.passages fs (embedding o loader) [] [], p.node = image →
            p.before ++ p.own <+: t
            ∧ (render fs image (some (.rtf o)) []).result = .ok (.text p.own) := by
  intro uri image cause warning
  obtain ⟨tooLarge, hsize⟩ := ImageLoader.exists_isBelow ho.limit bytes.length
  obtain ⟨loader, hcreate, -⟩ : ∃ loader,
      ImageLoader.create fs o.sourceDirectory o.maxAssetSize = .ok loader
        ∧ loader.limit = o.maxAssetSize := exists_create ho.directory
  refine ⟨tooLarge, hsize, fun limit hlimit => ?_, ?_, ?_, loader, hcreate,
    fun root t h p hp hnode => ?_⟩
  · rw [ImageLoader.isBelow_of_int? hlimit] at hsize
    cases hsize
    exact decide_eq_true_iff
  · rintro rfl
    have hrender := render_fitting fs ho htype hbytes hsize alt title metadata hwidth hheight
    rw [← width.fitsTwips_iff, ← height.fitsTwips_iff, ← Bool.and_eq_true_iff]
    refine ⟨fun hfits => ⟨ofBytes bytes, hexBytes?_ofBytes bytes, ?_⟩, fun hfits => ?_⟩
    · rw [hrender, if_pos hfits]
    · rw [hrender, if_neg hfits]
  · rintro rfl hbase halt
    have hrender := render_tooLarge fs ho hbase htype hbytes hsize halt title width height
      metadata
    refine ⟨fun hfail => ?_, fun hfail => ?_⟩
    · rw [hrender, if_neg (by rw [hfail]; exact Bool.false_ne_true)]
    · rw [hrender, if_pos hfail]
  · exact hnode ▸ render_of_mem_passages ho hcreate h hp

section Samples

/-- The image of two bytes with a width. -/
def smallImage (width : Value) : Node :=
  .leaf (.image (.text (Image.dataUri "IMAGE/Png".toList [0x68, 0x69])) .null .null width .null
    (.dict []))

theorem embeds_embeddingOptions : embeddingOptions.Embeds := ⟨rfl, .inl rfl, rfl⟩

theorem isPictureType_sample : Image.IsPictureType "IMAGE/Png".toList "\\pngblip" := by decide

/-- A media type in mixed case, and a width. -/
theorem render_dataUri_sample :
    ∃ digits, hexBytes? digits = some [0x68, 0x69]
      ∧ render ⟨.directory [], []⟩ (smallImage (.int 2)) (some (.rtf embeddingOptions)) []
        = ⟨[.renderingDone], .ok (.text (Rtf.pictureGroup "\\pngblip" 2 0 digits))⟩ := by
  have hbytes : [0x68, 0x69] ≠ ([] : List UInt8) := List.cons_ne_nil _ _
  have hint : Value.int 2 = .null ∨ (Value.int 2).IsInt := .inr ⟨2, rfl⟩
  have hnull : Value.null = .null ∨ Value.null.IsInt := .inl rfl
  obtain ⟨tooLarge, hsize, -, hfits, -⟩ := render_dataUri isPictureType_sample hbytes hint hnull
    embeds_embeddingOptions .null .null (.dict []) ⟨.directory [], []⟩
  cases hsize
  have hwidth : IsShort (2 * 15) := isShort_of_natAbs_lt_pow (k := 2) (by decide) (by decide)
  exact (hfits rfl).1 ⟨hwidth, isShort_zero_mul⟩

/-- The twips of a size that has as many digits as can be written are too many. -/
theorem not_isShort_of_digits {k : Nat} (hk : k + 1 = digitLimit) : ¬ IsShort (10 ^ k * 15) := by
  have hpow : Nat.pow 10 (k + 1) ≤ ((10 : Int) ^ k * 15).natAbs := by
    rw [Int.natAbs_mul, Int.natAbs_pow]
    exact Nat.mul_le_mul_left (10 ^ k) (by decide)
  rw [IsShort, ← hk]
  exact Nat.not_lt.mpr hpow

/-- **A size of too many digits ends the rendering**, though the image is loaded: its picture is written
where no failure is caught. -/
theorem render_dataUri_wide :
    embeddingOptions.Embeds ∧ Image.IsPictureType "IMAGE/Png".toList "\\pngblip"
      ∧ embeddingOptions.maxAssetSize.isBelow 2 = .ok false
      ∧ render ⟨.directory [], []⟩ (smallImage (.int (10 ^ (digitLimit - 1))))
          (some (.rtf embeddingOptions)) [] = ⟨[], .error (.invalid .digitsWritten)⟩ := by
  have hlong : ¬ IsShort (10 ^ (digitLimit - 1) * 15) := not_isShort_of_digits rfl
  have hwide : (Value.int (10 ^ (digitLimit - 1))).fitsTwips = false :=
    Bool.eq_false_iff.mpr fun h => hlong ((Value.fitsTwips_of_int? rfl).mp h)
  have hbytes : [0x68, 0x69] ≠ ([] : List UInt8) := List.cons_ne_nil _ _
  have hint : Value.int (10 ^ (digitLimit - 1)) = .null
      ∨ (Value.int (10 ^ (digitLimit - 1))).IsInt := .inr ⟨_, rfl⟩
  have hrender := render_fitting ⟨.directory [], []⟩ embeds_embeddingOptions isPictureType_sample
    hbytes rfl .null .null (.dict []) hint (.inl rfl)
  rw [hwide, Bool.false_and, if_neg Bool.false_ne_true] at hrender
  exact ⟨embeds_embeddingOptions, isPictureType_sample, rfl, hrender⟩

end Samples

end Conversion

end RichText
