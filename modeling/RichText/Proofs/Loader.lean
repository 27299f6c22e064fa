import Mathlib
import RichText.Image.Loader
import RichText.Proofs.Suffix
import RichText.Proofs.Way

/-!
# Proofs/Loader — images are read from below the source directory

    path ──resolved──▸ names without links ──text, walk──▸ the entry of these names

The names that a path leads to are read back from the text of the path (`splitOn_text`), and no link
stands on their way (`at?_of_walk`), so what is read is the file at these names.  The loader has
compared them with the names of its directory before (`load_confined`).
-/

namespace RichText

/-! ## Paths without links -/

namespace Path

theorem joinNames_eq (names : List Text) :
    joinNames names = List.intercalate [.char '/'] names := by
  match names with
  | [] => rfl
  | [n] => exact (List.append_nil n).symm
  | n :: m :: rest =>
    rw [joinNames, joinNames_eq (m :: rest), List.intercalate_cons_cons]
    · rfl
    · exact List.cons_ne_nil m rest

/-- **The text of a path from the root gives its names back.** -/
theorem splitOn_text {names : List Text} (h : ∀ n ∈ names, FileSystem.IsName n)
    (hne : names ≠ []) : List.splitOn (.char '/') (text ⟨"/", names⟩) = [] :: names := by
  have htext : text ⟨"/", names⟩ = List.intercalate [.char '/'] ([] :: names) := by
    obtain ⟨n, rest, rfl⟩ := List.exists_cons_of_ne_nil hne
    rw [List.intercalate_cons_cons, ← joinNames_eq]
    rfl
  rw [htext]
  refine List.splitOn_intercalate _ (List.forall_mem_cons.mpr ⟨List.not_mem_nil, ?_⟩)
    (List.cons_ne_nil _ _)
  exact fun n hn => (h n hn).2.2.2

end Path

namespace FileSystem

variable {root : Entry} {budget : Nat} {here rest place : List Text} {e : Entry}

/-- Names that say nothing are passed. -/
theorem walk_nil_cons {x : List Text × Option Entry}
    (h : walk root true budget here ([] :: rest) = .ok x) :
    walk root true budget here rest = .ok x := by
  rw [walk] at h
  split at h
  · cases h
  · exact h
  · cases h

/-- **Names on whose way there is no link** are the names of what is found. -/
theorem at?_of_walk {names : List Text} (hname : ∀ n ∈ rest, IsName n)
    (hlink : HasNoLink root (here ++ rest))
    (h : walk root true budget here rest = .ok (names, some e)) :
    root.at? (here ++ rest) = some e := by
  induction rest generalizing here with
  | nil =>
    rw [walk] at h
    rw [List.append_nil]
    exact congrArg Prod.snd (Except.ok.inj h)
  | cons n rest ih =>
    obtain ⟨hn, hrest⟩ := List.forall_mem_cons.mp hname
    rw [walk] at h
    split at h
    · cases h
    · next entries hhere =>
      have hchild : root.at? (here ++ [n]) = (Entry.directory entries).child? n := by
        rw [Entry.at?_concat, hhere]
        rfl
      rw [hn.tests.1, if_neg Bool.false_ne_true, hn.tests.2, if_neg Bool.false_ne_true] at h
      rw [List.append_cons] at hlink ⊢
      split at h
      · cases h
      · split at h
        · split at h <;> cases h
        · next target hc =>
          exact absurd (hchild.trans hc) (hlink _ (List.prefix_append _ _) target)
        · exact ih hrest hlink h
    · cases h

/-- **What is found on a path without links** is what its names hold. -/
theorem at?_of_stat {fs : FileSystem} (hname : ∀ n ∈ place, IsName n)
    (hlink : HasNoLink fs.root place) (h : fs.stat (Path.text ⟨"/", place⟩) = .ok e) :
    fs.root.at? place = some e := by
  have hslash : (Path.text ⟨"/", place⟩).head? = some (.char '/') := rfl
  rw [stat] at h
  split at h
  · next names found hfollow =>
    cases h
    rw [follow] at hfollow
    dsimp only at hfollow
    split at hfollow
    · cases hfollow
    split at hfollow
    · cases hfollow
    split at hfollow
    · next hwalk =>
      cases hfollow
      rw [hslash, beq_self_eq_true, if_pos rfl] at hwalk
      by_cases hne : place = []
      · subst hne
        exact at?_of_walk hname hlink (walk_nil_cons (walk_nil_cons hwalk))
      · rw [Path.splitOn_text hname hne] at hwalk
        exact at?_of_walk hname hlink (walk_nil_cons hwalk)
    · cases hfollow
  · cases h
  · cases h

theorem normalNames_of_isName {names : List Text} (h : ∀ n ∈ names, IsName n) :
    normalNames names = names := by
  have key (done : List Text) : names.foldl (fun done n =>
      if n.isEmpty || n == [.char '.'] then done
      else if n == [.char '.', .char '.'] then done.dropLast
      else done ++ [n]) done = done ++ names := by
    induction names generalizing done with
    | nil => exact (List.append_nil done).symm
    | cons n rest ih =>
      obtain ⟨hn, hrest⟩ := List.forall_mem_cons.mp h
      rw [List.foldl_cons, hn.tests.1, if_neg Bool.false_ne_true, hn.tests.2,
        if_neg Bool.false_ne_true, ih hrest, List.append_assoc, List.singleton_append]
  exact key []

/-- Where a path starts, there is no link above. -/
theorem IsSound.start {fs : FileSystem} (h : fs.IsSound) (p : Path) :
    (∀ n ∈ fs.startOf p, IsName n) ∧ HasNoLink fs.root (fs.startOf p) := by
  obtain ⟨entries, hdirectory⟩ := h.isDirectory
  have hlink := hasNoLink_of_directory hdirectory
  rw [startOf]
  split
  · exact ⟨fun n hn => absurd hn List.not_mem_nil, hlink.nil⟩
  · exact ⟨h.isName, hlink⟩

/-- **A path is resolved to the place it leads to.** -/
theorem resolved_of_leadsTo {fs : FileSystem} (hfs : fs.IsSound) {p : Path}
    (h : fs.LeadsTo p place) : fs.resolved p = ⟨"/", place⟩ := by
  obtain ⟨links, h⟩ := h
  have hname := h.isName (hfs.start p).1
  obtain ⟨later, hr, -⟩ := resolveNames_of_leads h (Seen.agrees_nil fs.root links)
    (Nat.lt_succ_of_le (card_unseen_nil_le fs.root))
  have hresolved : fs.resolved p = ⟨"/", normalNames
      (resolveNames fs.root (linkCount fs.root + 1) [] (fs.startOf p) p.names).names⟩ := rfl
  rw [hresolved, hr, normalNames_of_isName hname]

end FileSystem

/-! ## Loading -/

namespace ImageLoader

variable {fs : FileSystem} {loader : ImageLoader}

theorem resolved_of_locate {p q : Path} (h : locate fs p = .ok q) : q = fs.resolved p := by
  obtain ⟨-, -, h⟩ := except_bind_eq_ok.mp h
  split at h
  · next q' hresolve =>
    cases h
    rw [FileSystem.resolve] at hresolve
    split at hresolve
    · cases hresolve
    · exact (Except.ok.inj hresolve).symm
  · cases h

theorem stat_of_content {path : Text} {data : List UInt8} (h : fs.content path = .ok data) :
    fs.stat path = .ok (.file data) := by
  rw [FileSystem.content] at h
  split at h
  · next hstat => cases h; exact hstat
  · cases h
  · cases h

theorem ofFile_eq_ok {α : Type} {x : Except FileError α} {a : α} :
    ofFile x = .ok a ↔ x = .ok a := by cases x <;> simp [ofFile]

theorem isBelow_of_checkSize {size : Nat} {source : Text}
    (h : loader.checkSize size source = .ok ()) : loader.limit.isBelow size = .ok false := by
  obtain ⟨below, hbelow, h⟩ := except_bind_eq_ok.mp h
  cases below with
  | true => cases h
  | false => exact hbelow

/-- **What has been checked of a file that is loaded.** -/
structure IsLoaded (fs : FileSystem) (loader : ImageLoader) (url : Text) (image : EmbeddedImage) :
    Prop where
  format_eq : Image.formatOfPath? (.ofText url) = some image.format
  blip_isSome : (Image.blip? image.format).isSome
  inside : (fs.resolved loader.sourceDirectory).names
    <+: (fs.resolved (loader.sourceDirectory.join url)).names
  stat_eq : fs.stat (fs.resolved (loader.sourceDirectory.join url)).text = .ok (.file image.data)
  notBelow : loader.limit.isBelow image.data.length = .ok false

theorem isLoaded_of_loadFile {url : Text} {image : EmbeddedImage}
    (h : loadFile fs loader url = .ok image) : IsLoaded fs loader url image := by
  rw [loadFile] at h
  split at h
  · cases h
  · next format hformat =>
    split at h
    · cases h
    · next hblip =>
      obtain ⟨place, hplace, h⟩ := except_bind_eq_ok.mp h
      obtain ⟨directory, hdirectory, h⟩ := except_bind_eq_ok.mp h
      split at h
      · cases h
      · next hinside =>
        obtain ⟨entry, hentry, h⟩ := except_bind_eq_ok.mp h
        obtain ⟨_, hsize, h⟩ := except_bind_eq_ok.mp h
        obtain ⟨data, hdata, h⟩ := except_bind_eq_ok.mp h
        cases h
        obtain rfl := resolved_of_locate hplace
        obtain rfl := resolved_of_locate hdirectory
        have hstat := stat_of_content (ofFile_eq_ok.mp hdata)
        have hentry' := ofFile_eq_ok.mp hentry
        rw [hstat] at hentry'
        cases hentry'
        refine ⟨?_, ?_, ?_, hstat, isBelow_of_checkSize hsize⟩
        · split at hformat
          · cases hformat
          · exact hformat
        · simpa [Option.isSome_iff_ne_none] using hblip
        · simpa using hinside

/-- **A file that passes the checks is loaded.** -/
theorem load_eq_ok {url format : Text} {file directory : Path} {data : List UInt8}
    (huri : Image.isDataUri url = false) (hscheme : Text.hasInfix "://" url = false)
    (hempty : url.isEmpty = false) (hformat : Image.formatOfPath? (.ofText url) = some format)
    (hblip : (Image.blip? format).isNone = false)
    (hfile : locate fs (loader.sourceDirectory.join url) = .ok file)
    (hdirectory : locate fs loader.sourceDirectory = .ok directory)
    (hinside : directory.names.isPrefixOf file.names = true)
    (hcontent : fs.content file.text = .ok data)
    (hsize : loader.limit.isBelow data.length = .ok false) :
    (loader.load fs (.text url)).result = .ok (some ⟨data, format⟩) := by
  have hcheck : loader.checkSize (FileSystem.reportedSize (.file data)) file.text = .ok () := by
    rw [checkSize, FileSystem.reportedSize, hsize]
    rfl
  have hload : loadFile fs loader url = .ok ⟨data, format⟩ := by
    rw [loadFile, hempty, if_neg Bool.false_ne_true, hformat]
    dsimp only
    rw [hblip, if_neg Bool.false_ne_true, hfile, hdirectory]
    dsimp only [bind, Except.bind]
    rw [hinside, stat_of_content hcontent, hcontent]
    dsimp only [ofFile]
    rw [hcheck]
    rfl
  rw [load, huri, hscheme, hload]
  rfl

/-- A size that is not above an integer limit. -/
theorem le_of_isBelow {limit : Value} {size : Nat} (h : limit.isBelow size = .ok false) {i : Int}
    (hi : limit.int? = some i) : (size : Int) ≤ i := by
  cases limit with
  | int j =>
    cases hi
    exact not_lt.mp (of_decide_eq_false (Except.ok.inj h))
  | bool b =>
    cases hi
    exact not_lt.mp (of_decide_eq_false (Except.ok.inj h))
  | _ => cases hi

/-- **The image at an address that is no data URI** is one loaded from a file. -/
theorem isLoaded_of_load {url : Text} {image : EmbeddedImage} (huri : Image.isDataUri url = false)
    (h : (loader.load fs (.text url)).result = .ok (some image)) :
    IsLoaded fs loader url image := by
  rw [load] at h
  rw [huri, if_neg Bool.false_ne_true] at h
  split at h
  · cases h
  · obtain ⟨image', hload, h⟩ := Outcome.result_bind_eq_ok.mp h
    cases h
    exact isLoaded_of_loadFile hload

/-- **No image is read from outside the source directory** where paths have an end.  An address with a
scheme reads no file.  An image from a file has a suffix of one of the formats, it is the content of a
file and no larger than allowed; and if the source directory and the path of the file lead anywhere at
all, the file is what is stored where its path leads, below the place where the directory is. -/
theorem load_confined (hfs : fs.IsSound) (loader : ImageLoader) (url : Text) :
    (Image.isDataUri url = true ∨ Text.hasInfix "://" url = true →
        ∀ other, loader.load other (.text url) = loader.load fs (.text url))
      ∧ ∀ image, Image.isDataUri url = false →
        (loader.load fs (.text url)).result = .ok (some image) →
          (Path.ofText url).suffix.lower ∈ [(".png" : Text), ".jpg", ".jpeg"]
            ∧ (∀ i, loader.limit.int? = some i → (image.data.length : Int) ≤ i)
            ∧ (∃ path, fs.stat path = .ok (.file image.data))
            ∧ ∀ directory place, fs.LeadsTo loader.sourceDirectory directory →
              fs.LeadsTo (loader.sourceDirectory.join url) place →
              directory <+: place ∧ fs.root.at? place = some (.file image.data) := by
  refine ⟨fun hscheme other => ?_, fun image huri h => ?_⟩
  · rw [load, load]
    cases huri : Image.isDataUri url with
    | true => rfl
    | false =>
      rw [huri] at hscheme
      rw [if_neg Bool.false_ne_true, if_neg Bool.false_ne_true,
        if_pos (hscheme.resolve_left Bool.false_ne_true),
        if_pos (hscheme.resolve_left Bool.false_ne_true)]
  · have hloaded := isLoaded_of_load huri h
    refine ⟨?_, fun i => le_of_isBelow hloaded.notBelow, ⟨_, hloaded.stat_eq⟩,
      fun directory place hdirectory hplace => ?_⟩
    · rw [Image.suffix_lower_of_formatOfPath? hloaded.format_eq]
      have hmem := Image.mem_of_blip?_isSome hloaded.blip_isSome
      simp only [List.mem_cons, List.not_mem_nil, or_false] at hmem
      rcases hmem with hf | hf | hf <;> rw [hf] <;> decide
    · have hinside := hloaded.inside
      have hstat := hloaded.stat_eq
      rw [FileSystem.resolved_of_leadsTo hfs hplace] at hinside hstat
      rw [FileSystem.resolved_of_leadsTo hfs hdirectory] at hinside
      obtain ⟨links, hway⟩ := hplace
      exact ⟨hinside, FileSystem.at?_of_stat (hway.isName (hfs.start _).1)
        (hway.hasNoLink (hfs.start _).2) hstat⟩

/-- A link to the source directory, one below it, and a step back. -/
theorem load_confined_sample :
    let pictures : Entry := .directory [("a.PNG", .file [0x68])]
    let site : Entry := .directory [("img", .link "pics"), ("pics", pictures)]
    let home : Entry := .directory [("site", .link "docs"), ("docs", site)]
    let fs : FileSystem := ⟨.directory [("home", home)], ["home"]⟩
    let loader : ImageLoader := ⟨.ofText "site", .int 1⟩
    (loader.load fs (.text "img/../pics/a.PNG")).result = .ok (some ⟨[0x68], "png"⟩)
      ∧ fs.root.at? ["home", "docs", "pics", "a.PNG"] = some (.file [0x68]) := by
  intro pictures site home fs loader
  have hfs : fs.IsSound := ⟨by decide, ⟨_, rfl⟩⟩
  have h : (loader.load fs (.text "img/../pics/a.PNG")).result = .ok (some ⟨[0x68], "png"⟩) := by
    have hformat : Image.formatOfPath? (.ofText "img/../pics/a.PNG") = some "png" := by cbv
    have hfile : locate fs (loader.sourceDirectory.join "img/../pics/a.PNG")
        = .ok ⟨"/", ["home", "docs", "pics", "a.PNG"]⟩ := by cbv
    have hdirectory : locate fs loader.sourceDirectory = .ok ⟨"/", ["home", "docs"]⟩ := by cbv
    have hcontent : fs.content "/home/docs/pics/a.PNG" = .ok [0x68] := by cbv
    exact load_eq_ok rfl rfl rfl hformat rfl hfile hdirectory rfl hcontent rfl
  have hdirectory : fs.LeadsTo loader.sourceDirectory ["home", "docs"] :=
    ⟨1, .link (by decide) rfl (.enter (by decide) (by rintro _ ⟨⟩) .done)⟩
  have hplace : fs.LeadsTo (loader.sourceDirectory.join "img/../pics/a.PNG")
      ["home", "docs", "pics", "a.PNG"] :=
    ⟨2, .link (by decide) rfl <| .enter (by decide) (by rintro _ ⟨⟩) <|
      .link (by decide) rfl <| .enter (by decide) (by rintro _ ⟨⟩) <| .up <|
      .enter (by decide) (by rintro _ ⟨⟩) <| .enter (by decide) (by rintro _ ⟨⟩) .done⟩
  exact ⟨h, (((load_confined hfs loader _).2 _ rfl h).2.2.2 _ _ hdirectory hplace).2⟩

/-- **Behind a cycle of links an image is read from outside the source directory.**  The path runs into
the cycle, so what follows is kept unresolved, and the step back takes away the one name that stands
for the cycle.  The link behind it is never followed before the names are compared. -/
theorem load_behind_cycle :
    let docs : Entry := .directory [("loop", .link "loop"), ("out", .link "../outside")]
    let outside : Entry := .directory [("x.png", .file [0x68, 0x69])]
    let fs : FileSystem := ⟨.directory [("docs", docs), ("outside", outside)], []⟩
    let loader : ImageLoader := ⟨.ofText "/docs", .int 1000⟩
    (loader.load fs (.text "loop/../out/x.png")).result = .ok (some ⟨[0x68, 0x69], "png"⟩)
      ∧ fs.LeadsTo loader.sourceDirectory ["docs"]
      ∧ ∀ place : List Text, [("docs" : Text)] <+: place →
        fs.root.at? place ≠ some (.file [0x68, 0x69]) := by
  intro docs outside fs loader
  refine ⟨?_, ⟨0, .enter (by decide) (by rintro _ ⟨⟩) .done⟩, ?_⟩
  · have hformat : Image.formatOfPath? (.ofText "loop/../out/x.png") = some "png" := by cbv
    have hfile : locate fs (loader.sourceDirectory.join "loop/../out/x.png")
        = .ok ⟨"/", ["docs", "out", "x.png"]⟩ := by cbv
    have hdirectory : locate fs loader.sourceDirectory = .ok ⟨"/", ["docs"]⟩ := by cbv
    have hcontent : fs.content "/docs/out/x.png" = .ok [0x68, 0x69] := by cbv
    exact load_eq_ok rfl rfl rfl hformat rfl hfile hdirectory rfl hcontent rfl
  · rintro _ ⟨rest, rfl⟩ h
    have hdocs : Entry.at? (.directory [("loop", .link "loop"), ("out", .link "../outside")]) rest
        = some (.file [0x68, 0x69]) := h
    cases rest with
    | nil => cases hdocs
    | cons n more =>
      rw [Entry.at?] at hdocs
      split at hdocs
      · next c hc =>
        -- The directory holds links alone, and nothing is below a link.
        obtain ⟨found, hfind, rfl⟩ := Option.map_eq_some_iff.mp hc
        have hmem := List.mem_of_find?_eq_some hfind
        simp only [List.mem_cons, List.not_mem_nil, or_false] at hmem
        rcases hmem with rfl | rfl <;> cases more <;> cases hdocs
      · cases hdocs

end ImageLoader

end RichText
