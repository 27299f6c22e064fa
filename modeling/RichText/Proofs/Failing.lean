import RichText.Proofs.Loader
import RichText.Render.Rule

/-!
# Proofs/Failing — what a computation may fail for

    image problems, and what finding places and comparing sizes fails for ──▸ what loading fails for

A computation that gives a result or a failure keeps to a property of failures if each of its steps
does (`FailsAs.bind`).  Loading an image is made of steps that fail for a problem of the image, and of
two that may fail otherwise: a path may run in a cycle of links, and a limit may be no number
(`ImageLoader.load_failsAs`).  Where paths lead to a place there is no cycle
(`ImageLoader.locate_failsAs_of_leadsTo`).
-/

namespace RichText

/-- **A computation that fails for nothing else**: its failure, if it has one, has a property. -/
def FailsAs {α : Type} (P : Failure → Prop) (r : Except Failure α) : Prop := ∀ e, r = .error e → P e

namespace FailsAs

variable {α β : Type} {P : Failure → Prop} {r : Except Failure α}

theorem ok (a : α) : FailsAs P (.ok a) := fun _ h => nomatch h

theorem error {e : Failure} (h : P e) : FailsAs P (.error e : Except Failure α) := by
  rintro _ ⟨⟩
  exact h

/-- Two computations in a row fail as one of them does. -/
theorem bind (hr : FailsAs P r) {next : α → Except Failure β}
    (hnext : ∀ a, r = .ok a → FailsAs P (next a)) : FailsAs P (r >>= next) := by
  cases r with
  | error e => exact error (hr e rfl)
  | ok a => exact hnext a rfl

theorem map (hr : FailsAs P r) (f : α → β) : FailsAs P (r.map f) := by
  cases r with
  | error e => exact error (hr e rfl)
  | ok a => exact ok (f a)

/-- The same behind notices. -/
theorem andThen {x : Outcome α} (hx : FailsAs P x.result) {next : α → Outcome β}
    (hnext : ∀ a, x.result = .ok a → FailsAs P (next a).result) :
    FailsAs P (x >>= next).result := by
  obtain ⟨log, result⟩ := x
  cases result with
  | error e => exact error (hx e rfl)
  | ok a => exact hnext a rfl

end FailsAs

/-! ## Paths that lead to a place -/

namespace FileSystem

variable {fs : FileSystem} {root : Entry} {here rest place : List Text}

/-- Names on whose way there is no link run in no cycle of links. -/
theorem walk_ne_linkLoop {through : Bool} {budget : Nat} (hname : ∀ n ∈ rest, IsName n)
    (hlink : HasNoLink root (here ++ rest)) :
    walk root through budget here rest ≠ .error .linkLoop := by
  induction rest generalizing here with
  | nil =>
    rw [walk]
    intro h
    cases h
  | cons n rest ih =>
    obtain ⟨hn, hrest⟩ := List.forall_mem_cons.mp hname
    rw [walk]
    split
    · intro h
      cases h
    · next entries hhere =>
      have hchild : root.at? (here ++ [n]) = (Entry.directory entries).child? n := by
        rw [Entry.at?_concat, hhere]
        rfl
      rw [hn.tests.1, if_neg Bool.false_ne_true, hn.tests.2, if_neg Bool.false_ne_true]
      rw [List.append_cons] at hlink
      split
      · intro h
        cases h
      · split
        · split <;> (intro h; cases h)
        · next target hc =>
          exact absurd (hchild.trans hc) (hlink _ (List.prefix_append _ _) target)
        · exact ih hrest hlink
    · intro h
      cases h

/-- A name that says nothing leads into no cycle. -/
theorem walk_nil_cons_eq_linkLoop {through : Bool} {budget : Nat}
    (h : walk root through budget here ([] :: rest) = .error .linkLoop) :
    walk root through budget here rest = .error .linkLoop := by
  rw [walk] at h
  split at h
  · cases h
  · exact h
  · cases h

/-- **A path without links runs in no cycle of them.** -/
theorem stat_ne_linkLoop (hname : ∀ n ∈ place, IsName n) (hlink : HasNoLink fs.root place)
    (path : Text) : fs.stat (Path.text ⟨"/", place⟩) ≠ .error ⟨.linkLoop, path⟩ := by
  have hslash : (Path.text ⟨"/", place⟩).head? = some (.char '/') := rfl
  have hwalk {budget : Nat} :
      walk fs.root true budget [] (List.splitOn (.char '/') (Path.text ⟨"/", place⟩))
        ≠ .error .linkLoop := by
    intro h
    by_cases hne : place = []
    · subst hne
      exact walk_ne_linkLoop hname hlink (walk_nil_cons_eq_linkLoop (walk_nil_cons_eq_linkLoop h))
    · rw [Path.splitOn_text hname hne] at h
      exact walk_ne_linkLoop hname hlink (walk_nil_cons_eq_linkLoop h)
  intro h
  rw [stat] at h
  split at h
  · cases h
  · cases h
  · next e hfollow =>
    cases h
    rw [follow] at hfollow
    dsimp only at hfollow
    split at hfollow
    · cases hfollow
    split at hfollow
    · cases hfollow
    split at hfollow
    · cases hfollow
    · next problem hproblem =>
      cases hfollow
      rw [hslash, beq_self_eq_true, if_pos rfl] at hproblem
      exact hwalk hproblem

/-- A path that leads to a place is resolved to it. -/
theorem resolve_of_leadsTo (hfs : fs.IsSound) {p : Path} (h : fs.LeadsTo p place) :
    fs.resolve p = .ok ⟨"/", place⟩ := by
  have hresolved := resolved_of_leadsTo hfs h
  obtain ⟨links, hway⟩ := h
  rw [resolve, hresolved]
  split
  · next path hloop =>
    exact absurd hloop (stat_ne_linkLoop (hway.isName (hfs.start p).1)
      (hway.hasNoLink (hfs.start p).2) path)
  · rfl

end FileSystem

/-! ## Loading -/

namespace ImageLoader

open FailsAs (ok error bind andThen)

variable {fs : FileSystem} {loader : ImageLoader} {P : Failure → Prop}
  (hproblem : ∀ e : Failure, e.isImageProblem = true → P e)

include hproblem

/-- A name with a null or with half a surrogate pair in it is refused before any file is asked for. -/
theorem checkNames_failsAs (before : Text) (names : List Text) :
    FailsAs P (checkNames before names) := by
  induction names generalizing before with
  | nil => exact ok _
  | cons name rest ih =>
    rw [checkNames]
    split
    · exact error (hproblem _ rfl)
    split
    · exact error (hproblem _ rfl)
    · exact ih _

/-- What a file is refused for is a failure of the file. -/
theorem ofFile_failsAs {α : Type} (r : Except FileError α) : FailsAs P (ofFile r) := by
  cases r with
  | ok a => exact ok _
  | error e => exact error (hproblem _ rfl)

section Limit

variable (hlimit : ∀ n, FailsAs P (loader.limit.isBelow n))

include hlimit

theorem checkSize_failsAs (size : Nat) (source : Text) : FailsAs P (loader.checkSize size source) := by
  refine bind (hlimit size) fun large _ => ?_
  split
  · exact error (hproblem _ rfl)
  · exact ok _

theorem loadUri_failsAs (uri : Text) : FailsAs P (loader.loadUri uri).result := by
  rw [loadUri]
  split
  · exact andThen (ok _) fun _ _ => error (hproblem _ rfl)
  · split
    · exact error (hproblem _ rfl)
    · exact andThen (checkSize_failsAs hproblem hlimit _ _) fun _ _ => ok _

variable {name : Text} (hplace : FailsAs P (locate fs (loader.sourceDirectory.join name)))
  (hdirectory : FailsAs P (locate fs loader.sourceDirectory))

include hplace hdirectory

theorem loadFile_failsAs : FailsAs P (loadFile fs loader name) := by
  rw [loadFile]
  split
  · exact error (hproblem _ rfl)
  split
  · exact error (hproblem _ rfl)
  refine bind hplace fun place _ => bind hdirectory fun directory _ => ?_
  split
  · exact error (hproblem _ rfl)
  exact bind (ofFile_failsAs hproblem _) fun _ _ =>
    bind (checkSize_failsAs hproblem hlimit _ _) fun _ _ =>
    bind (ofFile_failsAs hproblem _) fun _ _ => ok _

/-- **What loading an image fails for**: a problem of the image, what its limit is not compared for, or
what its path or the source directory is not found for. -/
theorem load_failsAs : FailsAs P (load fs loader (.text name)).result := by
  rw [load]
  split
  · exact andThen (loadUri_failsAs hproblem hlimit _) fun _ _ => ok _
  split
  · exact andThen (ok _) fun _ _ => ok _
  · exact andThen (loadFile_failsAs hproblem hlimit hplace hdirectory) fun _ _ => ok _

end Limit

/-- A loop of links is found when a path is resolved. -/
theorem locate_failsAs (hloop : P .linkLoop) (p : Path) : FailsAs P (locate fs p) := by
  refine bind (checkNames_failsAs hproblem _ _) fun _ _ => ?_
  split
  · exact ok _
  · exact error hloop

/-- A path that leads to a place is located, or has a name that no file can have. -/
theorem locate_failsAs_of_leadsTo (hfs : fs.IsSound) {p : Path} {place : List Text}
    (h : fs.LeadsTo p place) : FailsAs P (locate fs p) := by
  refine bind (checkNames_failsAs hproblem _ _) fun _ _ => ?_
  rw [FileSystem.resolve_of_leadsTo hfs h]
  exact ok _

end ImageLoader

end RichText
