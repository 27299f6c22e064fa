import Mathlib.Data.List.TakeWhile
import RichText.Image.Format

/-!
# Proofs/Suffix — the format in the suffix of a path

A suffix is a dot and what follows the last dot of a name.  Lower case makes no dot of anything else
(`dot_notMem_lower`), so the format of a path is all of its suffix in lower case but the one dot
(`suffix_lower_of_formatOfPath?`).
-/

namespace RichText

namespace CodePoint

theorem eq_of_ofCode_eq_dot {n : Nat} (h : ofCode n = .char '.') : n = 46 := by
  rw [ofCode, ofCode?] at h
  by_cases hv : n.isValidChar
  · rw [dif_pos hv] at h
    have hval : (Char.ofNatAux n hv).toNat = n := Nat.add_zero n
    exact hval.symm.trans (congrArg code h)
  · rw [dif_neg hv] at h
    split at h
    · cases h
    · split at h
      · cases h
      · rw [Option.getD_none] at h
        exact absurd h (by decide)

/-- A table that leads to no dot. -/
theorem dot_notMem_mapped {runs : List (Nat × Nat × Nat × Int)} {special : List (Nat × List Nat)}
    (hruns : ∀ r ∈ runs, (46 : Int) < r.1 + r.2.2.2) (hspecial : ∀ e ∈ special, 46 ∉ e.2)
    {c : CodePoint} (h : c ≠ .char '.') : .char '.' ∉ mapped runs special c := by
  intro hmem
  rw [mapped] at hmem
  split at hmem
  · next image hfind =>
    obtain ⟨n, hn, hdot⟩ := List.mem_map.mp hmem
    exact hspecial _ (List.mem_of_find?_eq_some hfind) (eq_of_ofCode_eq_dot hdot ▸ hn)
  · split at hmem
    · next first last step distance hfind =>
      have hrun := hruns _ (List.mem_of_find?_eq_some hfind)
      have hfirst := List.find?_some hfind
      have hcode := eq_of_ofCode_eq_dot (List.mem_singleton.mp hmem).symm
      simp at hfirst hrun
      omega
    · exact h (List.mem_singleton.mp hmem).symm

/-- **Only a dot has a dot in its lower case.** -/
theorem dot_notMem_lower {c : CodePoint} (h : c ≠ .char '.') : .char '.' ∉ c.lower := by
  cases c with
  | char x =>
    rw [lower]
    split
    · next hx =>
      intro hmem
      have hdot : x.toLower = '.' := (CodePoint.char.inj (List.mem_singleton.mp hmem)).symm
      have key : ∀ n : Fin 128, (Char.ofNat n).toLower = '.' → Char.ofNat n = '.' := by decide
      have hx' := key ⟨x.toNat, hx⟩
      rw [Char.ofNat_toNat] at hx'
      exact h (congrArg char (hx' hdot))
    · exact dot_notMem_mapped (by decide +kernel) (by decide +kernel) h
  | high hh => exact fun hmem => nomatch List.mem_singleton.mp hmem
  | low l => exact fun hmem => nomatch List.mem_singleton.mp hmem
end CodePoint

theorem Text.dot_notMem_lowerFrom {before t : Text} (h : .char '.' ∉ t) :
    .char '.' ∉ lowerFrom before t := by
  induction t generalizing before with
  | nil => exact List.not_mem_nil
  | cons c rest ih =>
    rw [List.mem_cons, not_or] at h
    rw [lowerFrom, List.mem_append, not_or]
    refine ⟨?_, ih h.2⟩
    split
    · split <;> decide
    · exact CodePoint.dot_notMem_lower (Ne.symm h.1)

namespace Path

/-- A suffix has one dot, at its beginning. -/
theorem suffixOf_cases (name : Text) :
    suffixOf name = [] ∨ ∃ tail, suffixOf name = .char '.' :: tail ∧ .char '.' ∉ tail := by
  rw [suffixOf]
  split
  · exact Or.inl rfl
  · refine Or.inr ⟨_, rfl, fun hmem => ?_⟩
    have hdot := List.mem_takeWhile_imp (List.mem_reverse.mp hmem)
    exact absurd rfl (of_decide_eq_true hdot)

theorem suffix_cases (p : Path) :
    p.suffix = [] ∨ ∃ tail, p.suffix = .char '.' :: tail ∧ .char '.' ∉ tail := by
  rw [suffix]
  split
  · exact suffixOf_cases _
  · exact Or.inl rfl

end Path

namespace Image

/-- **The suffix of a path in lower case is a dot and its format.** -/
theorem suffix_lower_of_formatOfPath? {p : Path} {format : Text}
    (h : formatOfPath? p = some format) : p.suffix.lower = .char '.' :: format := by
  rw [formatOfPath?] at h
  split at h
  · next hformats =>
    obtain rfl := Option.some.inj h
    rcases p.suffix_cases with hs | ⟨tail, hs, htail⟩
    · rw [hs] at hformats
      exact absurd hformats (by decide)
    · have hlower : Text.lower (.char '.' :: tail)
          = .char '.' :: Text.lowerFrom [.char '.'] tail := rfl
      rw [hs, hlower, List.dropWhile_cons_of_pos (by decide)]
      have hself : (Text.lowerFrom [.char '.'] tail).dropWhile (· = .char '.')
          = Text.lowerFrom [.char '.'] tail := by
        refine List.dropWhile_eq_self_iff.mpr fun hpos hdot => ?_
        exact Text.dot_notMem_lowerFrom htail (of_decide_eq_true hdot ▸ List.getElem_mem hpos)
      exact congrArg _ hself.symm
  · cases h

/-- The formats that pictures are written in. -/
theorem mem_of_blip?_isSome {format : Text} (h : (blip? format).isSome) :
    format ∈ [("png" : Text), "jpg", "jpeg"] := by
  rw [blip?] at h
  split at h
  · next hpng => exact List.mem_cons.mpr (Or.inl (eq_of_beq hpng))
  · split at h
    · next hjpg =>
      rw [Bool.or_eq_true, beq_iff_eq, beq_iff_eq] at hjpg
      exact List.mem_cons_of_mem _ (by simpa using hjpg)
    · cases h

end Image

end RichText
