import RichText.Conversion
import RichText.Proofs.Ascii
import RichText.Proofs.File

/-!
# Proofs/Delivery — a destination gets all of a text, or is not touched

    tree ──render──▸ failure                 nothing but the log is written
         └─────────▸ text ──deliver──▸ the caller has the text
                             ├───────▸ a file has it, and nothing else has changed
                             └───────▸ a stream is asked once to write it

Rendering only reads the files, and is over before a destination is opened.  What is rendered is of ASCII,
so that encoding it cannot fail behind the opening, and a file that has been opened can be written to
(`FileSystem.Wrote.again`).  Which form a stream gets the text in is told by its type
(`StreamType.IsGiven`).  What comes of writing it is for the stream alone: `Stream.WritesWhole` is what
streams are documented to do, and `Destination.Delivers` says what happens with it and without.
-/

namespace RichText

/-- Bytes that are the code points of a text one by one. -/
def Text.HasBytes (s : Text) (bytes : List UInt8) : Prop :=
  bytes.map UInt8.toNat = s.map CodePoint.code

/-- The bytes of a text are given by its code points. -/
theorem Text.HasBytes.unique {s : Text} {bytes other : List UInt8} (h : s.HasBytes bytes)
    (h' : s.HasBytes other) : bytes = other :=
  List.map_injective_iff.mpr (fun _ _ => UInt8.toNat_inj.mp) (Eq.trans h (Eq.symm h'))

/-! ## Texts and paths -/

/-- **A text that a path can be**: it has no null, and halves of surrogate pairs only for bytes. -/
def Path.IsSpelling (t : Text) : Prop :=
  ∀ c ∈ t, c ≠ .char '\x00' ∧ (c.utf8?.isSome = true ∨ 0xDC80 ≤ c.code ∧ c.code ≤ 0xDCFF)

instance (t : Text) : Decidable (Path.IsSpelling t) :=
  inferInstanceAs (Decidable (∀ c ∈ t, _))

/-- **A failure of a text that no path can be.**  It is none of the operating system. -/
inductive Failure.IsNoPath : Failure → Prop
  | null : IsNoPath (.invalid .nullCharacter)
  | half {t : Text} {first last : Nat} : IsNoPath (.unencodable t first last)

theorem ImageLoader.checkNames_eq_ok {t : Text} (h : Path.IsSpelling t) :
    checkNames [] [t] = .ok () := by
  have hnull : t.contains (.char '\x00') = false := by
    rw [← Bool.not_eq_true, List.contains_iff_mem]
    exact fun hmem => (h _ hmem).1 rfl
  have hhalf : (t.any fun c => c.utf8?.isNone && !(0xDC80 ≤ c.code && c.code ≤ 0xDCFF)) = false := by
    rw [List.any_eq_false]
    intro c hc
    rcases (h c hc).2 with hc | ⟨hlow, hhigh⟩
    · simp [Option.isNone_eq_false_iff.mpr hc]
    · simp [hlow, hhigh]
  rw [checkNames, hnull, hhalf]
  rfl

/-- A text that no path can be is refused. -/
theorem ImageLoader.exists_checkNames_eq_error {t : Text} (h : ¬ Path.IsSpelling t) :
    ∃ e : Failure, e.IsNoPath ∧ checkNames [] [t] = .error e := by
  rw [checkNames]
  dsimp only
  split
  · exact ⟨_, .null, rfl⟩
  split
  · exact ⟨_, .half, rfl⟩
  · next hnull hhalf =>
    refine absurd (fun c hc => ⟨?_, ?_⟩) h
    · rintro rfl
      exact hnull (List.contains_iff_mem.mpr hc)
    · have hkept := Bool.eq_false_iff.mpr fun hlost => hhalf (List.any_eq_true.mpr ⟨c, hc, hlost⟩)
      obtain hbytes | hrange := Bool.and_eq_false_iff.mp hkept
      · exact .inl (Option.isNone_eq_false_iff.mp hbytes)
      · rw [Bool.not_eq_false', Bool.and_eq_true, decide_eq_true_eq, decide_eq_true_eq] at hrange
        exact .inr hrange

/-! ## Streams -/

/-- **The chunk that a stream gets for a text**, by its type: the bytes, or the text as it is. -/
inductive StreamType.IsGiven (s : Text) : StreamType → Chunk → Prop
  | byteBuffer {bytes : List UInt8} (hbytes : s.HasBytes bytes) : IsGiven s .byteBuffer (.bytes bytes)
  | octets {bytes : List UInt8} (hbytes : s.HasBytes bytes) : IsGiven s .octets (.bytes bytes)
  | byteMode {mode : Text} {bytes : List UInt8} (hmode : .char 'b' ∈ mode)
    (hbytes : s.HasBytes bytes) : IsGiven s (.other (.text mode)) (.bytes bytes)
  | textBuffer : IsGiven s .textBuffer (.text s)
  | characters : IsGiven s .characters (.text s)
  | textMode {mode : Text} (hmode : .char 'b' ∉ mode) : IsGiven s (.other (.text mode)) (.text s)
  | noMode {mode : Value} (hmode : mode.text? = none) : IsGiven s (.other mode) (.text s)

namespace Stream

/-- **A stream writes a chunk whole, or fails with an error of the operating system**, in whatever world.
What it has kept where it fails is left open. -/
def WritesWhole (x : Stream) (c : Chunk) : Prop :=
  ∀ w : World, (∃ files, (x.write c).exec w = (.ok (), { w with files, received := w.received ++ [c] }))
    ∨ ∃ (e : FileError) (after : World), (x.write c).exec w = (.error (.file e), after)

variable {type : StreamType} {c : Chunk}

theorem write_inMemory (h : type.allows c = true) : (inMemory type).write c = Effect.keep c :=
  if_pos h

/-- A stream in memory writes every chunk that it can be given whole. -/
theorem writesWhole_inMemory (h : type.allows c = true) : (inMemory type).WritesWhole c := by
  intro w
  rw [write_inMemory h]
  exact .inl ⟨w.files, rfl⟩

theorem write_opened (path : Text) (h : type.allows c = true) :
    (opened type path).write c
      = (liftM c.toBytes >>= fun bytes => Effect.append path bytes >>= fun _ => Effect.keep c) :=
  if_pos h

/-- A file that is open writes every chunk that has bytes whole, or the operating system reports an
error. -/
theorem writesWhole_opened (path : Text) (h : type.allows c = true) {bytes : List UInt8}
    (hbytes : c.toBytes = .ok bytes) : (opened type path).WritesWhole c := by
  intro w
  rw [write_opened path h, Effect.exec_bind, Effect.exec_ofExcept, hbytes]
  dsimp only
  rw [Effect.exec_bind, Effect.exec_append]
  cases w.files.content path with
  | error e => exact .inr ⟨e, w, rfl⟩
  | ok content =>
    dsimp only
    rw [Effect.exec_fill]
    cases w.files.put path (content ++ bytes) with
    | error e => exact .inr ⟨e, w, rfl⟩
    | ok files => exact .inl ⟨files, rfl⟩

/-- **A text of ASCII is written once**, in the form that the stream takes. -/
theorem exists_give_eq {s : Text} (hs : s.IsAscii) (x : Stream) :
    ∃ c, x.type.IsGiven s c ∧ ∀ w, (x.give s).exec w = (x.write c).exec w := by
  have hbytes : s.HasBytes s.asciiBytes := hs.map_toNat_asciiBytes
  have hbinary (h : x.type.isBinary = true) (w : World) :
      (x.give s).exec w = (x.write (.bytes s.asciiBytes)).exec w := by
    rw [give, h, if_pos rfl, Effect.exec_bind, Effect.exec_ofExcept, hs.toUtf8_eq]
  have htext (h : x.type.isBinary = false) (w : World) :
      (x.give s).exec w = (x.write (.text s)).exec w := by
    rw [give, h]
    rfl
  obtain ⟨type, write⟩ := x
  cases type with
  | byteBuffer => exact ⟨_, .byteBuffer hbytes, hbinary rfl⟩
  | octets => exact ⟨_, .octets hbytes, hbinary rfl⟩
  | textBuffer => exact ⟨_, .textBuffer, htext rfl⟩
  | characters => exact ⟨_, .characters, htext rfl⟩
  | other mode =>
    cases mode with
    | text mode =>
      by_cases hb : .char 'b' ∈ mode
      · exact ⟨_, .byteMode hb hbytes, hbinary (List.contains_iff_mem.mpr hb)⟩
      · refine ⟨_, .textMode hb, htext ?_⟩
        rw [StreamType.isBinary, ← Bool.not_eq_true, List.contains_iff_mem]
        exact hb
    | _ => exact ⟨_, .noMode rfl, htext rfl⟩

end Stream

/-! ## Destinations -/

namespace Destination

variable {s : Text} {w : World} {p : Text}

/-- **What comes of giving a text to a path**: the file there has it and nothing else has changed, or there
can be no file of whatever content and nothing has. -/
def Stores (s : Text) (w : World) (p : Text) (done : Except Failure (Option Text) × World) : Prop :=
  (∃ bytes files place, s.HasBytes bytes ∧ FileSystem.Wrote w.files files p place bytes
      ∧ done = (.ok none, { w with files }))
    ∨ ∃ e : FileError, (∀ content, w.files.put p content = .error e) ∧ done = (.error (.file e), w)

/-- **What comes of giving a text to a destination.**  The caller has it.  A path is opened only for a text
that can be one.  A stream is asked once to write it, and what that does is all that happens: where it
writes the chunk whole, it has the text once and nothing comes back, unless the operating system reports an
error when it writes. -/
def Delivers (s : Text) (w : World) (done : Except Failure (Option Text) × World) : Destination → Prop
  | caller => done = (.ok (some s), w)
  | path p =>
    (Path.IsSpelling (openedAt p) → Stores s w (openedAt p) done)
      ∧ (¬ Path.IsSpelling (openedAt p) → ∃ e : Failure, e.IsNoPath ∧ done = (.error e, w))
  | stream x => ∃ c, x.type.IsGiven s c
    ∧ done = (x.write c >>= fun _ => pure none).exec w
    ∧ (x.WritesWhole c →
      (∃ files, done = (.ok none, { w with files, received := w.received ++ [c] }))
        ∨ ∃ (e : FileError) (after : World), (x.write c).exec w = (.error (.file e), after)
          ∧ done = (.error (.file e), after))
  | unsupported typeName => done = (.error (.noDestination typeName), w)

theorem exec_deliver_value (v : Value) (d : Destination) (w : World) :
    (d.deliver (.value v)).exec w = (.error (.noText v.typeName), w) := by
  rw [deliver, Effect.exec_bind]
  rfl

/-- Where some content can be written, any is. -/
theorem exists_wrote (h : ∀ e, ¬ ∀ content, w.files.put p content = .error e) (content : List UInt8) :
    ∃ files place, w.files.put p content = .ok files
      ∧ FileSystem.Wrote w.files files p place content := by
  cases hput : w.files.put p content with
  | error e => exact absurd (FileSystem.put_eq_error hput) (h e)
  | ok files =>
    obtain ⟨place, hwrote⟩ := FileSystem.exists_wrote_of_put hput
    exact ⟨files, place, rfl, hwrote⟩

/-- **A text of ASCII is stored**, unless there can be no file. -/
theorem stores_deliver (hs : s.IsAscii) (hp : Path.IsSpelling (openedAt p)) (w : World) :
    Stores s w (openedAt p) (((path p).deliver (.text s)).exec w) := by
  have hcheck := ImageLoader.checkNames_eq_ok hp
  by_cases hrefused : ∃ e, ∀ content, w.files.put (openedAt p) content = .error e
  · obtain ⟨e, hput⟩ := hrefused
    have hdone : ((path p).deliver (.text s)).exec w = (.error (.file e), w) := by
      simp only [deliver, Rendered.toText, Effect.exec_bind, Effect.exec_ofExcept, Effect.exec_fill,
        hcheck, hput]
    exact .inr ⟨e, hput, hdone⟩
  · -- opening has emptied the file, so the text is written to what is there then
    obtain ⟨opened, place, hopen, hempty⟩ := exists_wrote (not_exists.mp hrefused) []
    obtain ⟨files, hput, hwrote⟩ := hempty.again s.asciiBytes
    have hdone : ((path p).deliver (.text s)).exec w = (.ok none, { w with files }) := by
      simp only [deliver, Rendered.toText, Effect.exec_bind, Effect.exec_ofExcept, Effect.exec_fill,
        Effect.exec_pure, hs.toUtf8_eq, hcheck, hopen, hput]
    exact .inl ⟨_, files, place, hs.map_toNat_asciiBytes, hwrote, hdone⟩

/-- **A text of ASCII is delivered.** -/
theorem delivers_deliver (hs : s.IsAscii) (d : Destination) (w : World) :
    Delivers s w ((d.deliver (.text s)).exec w) d := by
  cases d with
  | caller => exact rfl
  | unsupported typeName => exact rfl
  | path p =>
    refine ⟨fun hp => stores_deliver hs hp w, fun hp => ?_⟩
    obtain ⟨e, he, hcheck⟩ := ImageLoader.exists_checkNames_eq_error hp
    refine ⟨e, he, ?_⟩
    simp only [deliver, Rendered.toText, Effect.exec_bind, Effect.exec_ofExcept, hcheck]
  | stream x =>
    obtain ⟨c, hc, hgive⟩ := x.exists_give_eq hs
    have hdone : ((stream x).deliver (.text s)).exec w
        = (x.write c >>= fun _ => pure none).exec w := by
      simp only [deliver, Rendered.toText, Effect.exec_bind, Effect.exec_ofExcept, hgive]
    refine ⟨c, hc, hdone, fun hwhole => ?_⟩
    rw [hdone, Effect.exec_bind]
    rcases hwhole w with ⟨files, hwritten⟩ | ⟨e, after, hfailed⟩
    · exact .inl ⟨files, by rw [hwritten]; rfl⟩
    · exact .inr ⟨e, after, hfailed, by rw [hfailed]⟩

end Destination

namespace Conversion

variable {w : World} {root : Node} {d : Destination} {options : Option Options} {given : Fields}

theorem refuseNames_of_mem {names : List Text} {n : Text} (hn : n ∈ names) (h : n ∈ given.names) :
    refuseNames names given = .error .misuse :=
  if_pos (List.any_eq_true.mpr ⟨n, h, List.contains_iff_mem.mpr hn⟩)

/-- Rendering is over before a destination is opened. -/
theorem exec_deliver (houtput : ("output" : Text) ∉ given.names) :
    (deliver root d options given).exec w
      = (Effect.ofOutcome (render w.files root options given) >>= fun r => d.deliver r).exec w := by
  rw [deliver, Effect.exec_bind, Effect.exec_ofExcept]
  by_cases hnames : ∃ n ∈ given.names, n ∈ (["doc", "output", "options"] : List Text)
  · obtain ⟨n, hgiven, hn⟩ := hnames
    have hn' : n ∈ (["doc", "options", "options_class", "options_type_name"] : List Text) := by
      rcases List.mem_cons.mp hn with rfl | hn
      · exact List.mem_cons_self
      rcases List.mem_cons.mp hn with rfl | hn
      · exact absurd hgiven houtput
      · exact List.mem_cons_of_mem _ (List.mem_cons.mpr (.inl (List.mem_singleton.mp hn)))
    have hrender : render w.files root options given = .fail .misuse := by
      rw [render, refuseNames_of_mem hn' hgiven]
      rfl
    rw [refuseNames_of_mem hn hgiven, hrender, Effect.exec_ofOutcome_bind]
    simp [Outcome.fail]
  · have hnone : refuseNames ["doc", "output", "options"] given = .ok () := by
      refine if_neg fun h => hnames ?_
      obtain ⟨n, hgiven, hn⟩ := List.any_eq_true.mp h
      exact ⟨n, hgiven, List.contains_iff_mem.mp hn⟩
    rw [hnone]
    dsimp only
    rw [Effect.exec_bind, Effect.exec_get]

/-- Options that are handed over alone are those the renderer is made with. -/
theorem render_of_forRenderer {fs : FileSystem} {o : RtfOptions}
    (h : Options.forRenderer options = .ok o) : render fs root options [] = renderWith fs o root := by
  cases options with
  | none => cases h; rfl
  | some handed =>
    cases handed with
    | rtf o' => cases h; rfl
    | renderer o' => cases h
    | parser => cases h
    | markdown o' => cases h

section Samples

/-- A link, and the file that it leads to. -/
def linkedFiles : FileSystem :=
  ⟨.directory [("out.rtf", .link "a.rtf"), ("a.rtf", .file [0x68])], []⟩

theorem follow_linkedFiles :
    linkedFiles.follow true "out.rtf" = .ok (["a.rtf"], some (.file [0x68])) := by
  have hwalk : FileSystem.walk linkedFiles.root true 40 [] ["out.rtf"]
      = .ok (["a.rtf"], some (.file [0x68])) := by
    refine (FileSystem.walk_link rfl (by decide) (by decide) (by decide) rfl).trans ?_
    show FileSystem.walk linkedFiles.root true 39 [] ["a.rtf"] = _
    refine (FileSystem.walk_enter rfl (by decide) (by decide) (by decide) rfl (by simp)).trans ?_
    rw [FileSystem.walk]
    rfl
  exact FileSystem.follow_eq_ok_iff.mpr ⟨rfl, by decide, hwalk⟩

end Samples

end Conversion

end RichText
