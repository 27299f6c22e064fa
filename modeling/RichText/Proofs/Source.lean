import RichText.Conversion
import RichText.Proofs.File
import RichText.Proofs.Utf8

/-!
# Proofs/Source — bytes are read as the text they stand for

    text ──utf8?──▸ bytes ──▸ mark ++ bytes
     │                │             │            in memory, in a stream, in a file
     └───────read─────┴─────────────┴──▸ text ──▸ tree

One mark of the order of bytes is taken away.  What is left is read just where it is well-formed UTF-8,
whatever holds it, so a document is the same tree in all of these forms.
-/

namespace RichText

namespace Source

variable {fs : FileSystem} {b rest : List UInt8} {source : Source} {s t : Text} {e : Failure}

/-- The mark of the order of bytes, which is `U+FEFF` in UTF-8. -/
def mark : List UInt8 := [0xEF, 0xBB, 0xBF]

/-- **Bytes, and what is left of them without one mark in front.** -/
inductive IsUnmarked : List UInt8 → List UInt8 → Prop
  | marked (rest : List UInt8) : IsUnmarked (mark ++ rest) rest
  | plain {b : List UInt8} (h : ¬ mark <+: b) : IsUnmarked b b

theorem isUnmarked_withoutMark (b : List UInt8) : IsUnmarked b (withoutMark b) := by
  fun_cases withoutMark b with
  | case1 rest => exact .marked rest
  | case2 =>
    rename_i h
    refine .plain ?_
    rintro ⟨rest, rfl⟩
    exact h rest rfl

theorem IsUnmarked.withoutMark_eq (h : IsUnmarked b rest) : withoutMark b = rest := by
  cases h with
  | marked => rfl
  | plain h =>
    fun_cases withoutMark b with
    | case1 rest => exact absurd (List.prefix_append mark rest) h
    | case2 => rfl

/-- **What holds bytes**: memory, a stream, or a file that can be opened. -/
inductive HoldsBytes (fs : FileSystem) (b : List UInt8) : Source → Prop
  | bytes : HoldsBytes fs b (.bytes b)
  | byteStream : HoldsBytes fs b (.byteStream b)
  | file {path : Text} (hname : ImageLoader.checkNames [] [(Path.ofText path).text] = .ok ())
    (hcontent : fs.content (Path.ofText path).text = .ok b) : HoldsBytes fs b (.file path)

/-- **What holds a text**: memory or a stream. -/
inductive HoldsText (t : Text) : Source → Prop
  | text : HoldsText t (.text t)
  | textStream : HoldsText t (.textStream t)

theorem HoldsBytes.read_eq (h : HoldsBytes fs b source) : source.read fs = decode b := by
  cases h with
  | bytes => rfl
  | byteStream => rfl
  | file hname hcontent =>
    rw [read, readFile, hname]
    simp only [bind, Except.bind, hcontent]

theorem HoldsText.read_eq (h : HoldsText t source) : source.read fs = .ok t := by
  cases h <;> rfl

/-- The failure of bytes that are no text. -/
def notUtf8 : Failure := .parsing "Input is not valid UTF-8 text" "input_processing" (some .undecodable)

/-- **Bytes give the text that has what is left of them as its bytes.** -/
theorem decode_eq_ok_iff (h : IsUnmarked b rest) : decode b = .ok t ↔ t.utf8? = some rest := by
  rw [decode, h.withoutMark_eq, ← Text.ofUtf8?_eq_some_iff]
  cases Text.ofUtf8? rest <;> simp

/-- **Bytes are refused where what is left of them is no well-formed UTF-8**, and for nothing else. -/
theorem decode_eq_error_iff (h : IsUnmarked b rest) :
    decode b = .error e ↔ ¬ Text.IsUtf8 rest ∧ e = notUtf8 := by
  rw [decode, h.withoutMark_eq, ← Text.ofUtf8?_eq_none_iff]
  cases Text.ofUtf8? rest with
  | none => simp [refusal, notUtf8, eq_comm]
  | some t => simp

/-- The bytes of a text without `U+FEFF` in front begin with no mark. -/
theorem isUnmarked_self (hs : s.utf8? = some b) (h : s.head? ≠ some (.char '\uFEFF')) :
    IsUnmarked b b := by
  refine .plain ?_
  rintro ⟨rest, rfl⟩
  have hmark : mark = CodePoint.utf8OfCode '\uFEFF'.toNat := by decide
  have hread := Text.ofUtf8?_of_utf8? hs
  rw [hmark, Text.ofUtf8?_utf8OfCode_append, Option.map_eq_some_iff] at hread
  obtain ⟨t, -, rfl⟩ := hread
  exact h rfl

/-- Bytes of a text, with a mark in front or without, are read as it. -/
theorem HoldsBytes.read_eq_ok (hs : s.utf8? = some b) (hhead : s.head? ≠ some (.char '\uFEFF'))
    (h : HoldsBytes fs b source ∨ HoldsBytes fs (mark ++ b) source) : source.read fs = .ok s := by
  rcases h with h | h
  · exact h.read_eq.trans ((decode_eq_ok_iff (isUnmarked_self hs hhead)).mpr hs)
  · exact h.read_eq.trans ((decode_eq_ok_iff (.marked b)).mpr hs)

end Source

namespace Conversion

open Source

theorem parse_congr {fs : FileSystem} {source source' : Source} (h : source.read fs = source'.read fs)
    (readers : Readers) (options : Option Options) :
    parse readers fs source options = parse readers fs source' options := by
  simp only [parse, parseWith, h]

/-- **Bytes are read as UTF-8, and a document is the same in every form.**  Where bytes without one mark
in front are not well-formed, reading fails and says so, at the stage of input; everywhere else it gives
the text they are the bytes of.  A text that does not begin with a mark itself, its bytes, and its bytes
behind a mark are parsed to the same tree, or fail for the same, from memory, streams and files, whatever
reads the languages they are in. -/
theorem parse_of_bytes (fs : FileSystem) :
    (∀ b source, HoldsBytes fs b source → ∃ rest, IsUnmarked b rest
      ∧ (∀ e, source.read fs = .error e ↔ ¬ Text.IsUtf8 rest ∧ e = notUtf8)
      ∧ ∀ t, source.read fs = .ok t ↔ t.utf8? = some rest)
    ∧ ∀ s : Text, s.hasSurrogate = false → s.head? ≠ some (.char '\uFEFF') →
      ∃ b, s.utf8? = some b ∧ ∀ source,
        HoldsText s source ∨ HoldsBytes fs b source ∨ HoldsBytes fs (mark ++ b) source →
          ∀ readers options, parse readers fs source options = parse readers fs (.text s) options := by
  constructor
  · intro b source h
    have hunmarked := isUnmarked_withoutMark b
    refine ⟨_, hunmarked, fun e => ?_, fun t => ?_⟩
    · rw [h.read_eq, decode_eq_error_iff hunmarked]
    · rw [h.read_eq, decode_eq_ok_iff hunmarked]
  · intro s hs hhead
    obtain ⟨b, hb⟩ := Text.exists_utf8?_iff.mpr hs
    refine ⟨b, hb, fun source h => parse_congr ?_⟩
    rcases h with htext | hbytes
    · exact htext.read_eq
    · exact HoldsBytes.read_eq_ok hb hhead hbytes

/-- The bytes of a letter with an accent behind a mark, in a file. -/
def markedFile : FileSystem :=
  ⟨.directory [("a.md", .file [0xEF, 0xBB, 0xBF, 0xC3, 0xA9])], []⟩

theorem holdsBytes_markedFile :
    HoldsBytes markedFile (mark ++ [0xC3, 0xA9]) (.file "a.md") := by
  have hwalk : FileSystem.walk markedFile.root true 40 [] ["a.md"]
      = .ok (["a.md"], some (.file (mark ++ [0xC3, 0xA9]))) := by
    refine (FileSystem.walk_enter rfl (by decide) (by decide) (by decide) rfl (by simp)).trans ?_
    rw [FileSystem.walk]
    rfl
  have hfollow : markedFile.follow true "a.md" = .ok (["a.md"], some (.file (mark ++ [0xC3, 0xA9]))) :=
    FileSystem.follow_eq_ok_iff.mpr ⟨rfl, by decide, hwalk⟩
  refine .file rfl ?_
  show markedFile.content "a.md" = _
  rw [FileSystem.content, FileSystem.stat, hfollow]

/-- A long form of a null is refused, and the file is parsed as the letter in it. -/
theorem parse_of_bytes_sample :
    Source.read markedFile (.byteStream [0xC0, 0x80]) = .error notUtf8
      ∧ ∀ readers options, parse readers markedFile (.file "a.md") options
        = parse readers markedFile (.text "é") options := by
  obtain ⟨hread, hparse⟩ := parse_of_bytes markedFile
  constructor
  · obtain ⟨rest, hrest, herror, -⟩ := hread [0xC0, 0x80] _ .byteStream
    obtain rfl : _ = rest := hrest.withoutMark_eq
    refine (herror _).mpr ⟨?_, rfl⟩
    rw [← Text.ofUtf8?_eq_none_iff]
    decide
  · obtain ⟨b, hb, h⟩ := hparse "é" (by decide) (by decide)
    obtain rfl : [0xC3, 0xA9] = b := Option.some.inj hb
    exact h _ (.inr (.inr holdsBytes_markedFile))

end Conversion

end RichText
