import Phrasebook.Text.Lowercase
import Phrasebook.Proofs.Letters
import Mathlib.Data.List.Basic

/-! What the mapping to lower case leaves out: no capital ASCII letter is in its results, and a star
only where one has been. -/

namespace Phrasebook.Text

/-- A character that may come from another one when that is put in lower case. -/
def IsLowered (c d : Char) : Prop :=
  d.isUpper = false ∧ (d = '*' → c = '*')

theorem isUpper_eq_false_of_lt {c : Char} (h : 0x5A < c.toNat) : c.isUpper = false := by
  rw [Bool.eq_false_iff]
  intro hupper
  rw [isUpper_iff] at hupper
  omega

theorem isLowered_of_lt {c d : Char} (h : 0x5A < d.toNat) : IsLowered c d := by
  refine ⟨isUpper_eq_false_of_lt h, ?_⟩
  rintro rfl
  exact absurd h (by decide)

theorem isLowered_toLower (c : Char) : IsLowered c c.toLower := by
  rcases toLower_cases c with ⟨-, hlower⟩ | ⟨hupper, heq⟩
  · rw [isLower_iff] at hlower
    exact isLowered_of_lt (by omega)
  · rw [heq]
    exact ⟨hupper, id⟩

theorem image_lowercaseRuns : ∀ run ∈ lowercaseRuns, 0x5A < run.image := by decide +kernel

theorem isLowered_apply {run : CaseRun} (h : run ∈ lowercaseRuns) (c : Char) :
    IsLowered c (Char.ofNat (run.apply c.toNat)) := by
  have hlt : 0x5A < run.apply c.toNat := Nat.lt_add_right _ (image_lowercaseRuns run h)
  by_cases hvalid : (run.apply c.toNat).isValidChar
  · apply isLowered_of_lt
    rw [Char.ofNat, dif_pos hvalid]
    exact hlt
  · rw [Char.ofNat, dif_neg hvalid]
    exact ⟨by decide, fun hstar => absurd hstar (by decide)⟩

theorem isLowered_lowerChar {c d : Char} (h : d ∈ lowerChar c) : IsLowered c d := by
  rw [lowerChar] at h
  split at h
  · obtain rfl := List.mem_singleton.1 h
    exact isLowered_toLower c
  · rename_i hascii
    split at h
    · rcases List.mem_pair.1 h with rfl | rfl <;> exact isLowered_of_lt (by decide)
    · split at h
      · rename_i run hrun
        obtain rfl := List.mem_singleton.1 h
        exact isLowered_apply (List.mem_of_find?_eq_some hrun) c
      · obtain rfl := List.mem_singleton.1 h
        exact isLowered_of_lt (by omega)

theorem lowerChar_ne_nil (c : Char) : lowerChar c ≠ [] := by
  rw [lowerChar]
  repeat' split
  all_goals exact List.cons_ne_nil _ _

theorem exists_isLowered_of_mem_lowerAfter {before s : List Char} {d : Char}
    (h : d ∈ lowerAfter before s) : ∃ c ∈ s, IsLowered c d := by
  induction s generalizing before with
  | nil => simp [lowerAfter] at h
  | cons c cs ih =>
      rw [lowerAfter, List.mem_append] at h
      rcases h with h | h
      · refine ⟨c, List.mem_cons_self, ?_⟩
        split at h
        · obtain rfl := List.mem_singleton.1 h
          split <;> exact isLowered_of_lt (by decide)
        · exact isLowered_lowerChar h
      · obtain ⟨e, hmem, he⟩ := ih h
        exact ⟨e, List.mem_cons_of_mem _ hmem, he⟩

theorem isUpper_of_mem_lower {s : List Char} {c : Char} (h : c ∈ lower s) : c.isUpper = false := by
  obtain ⟨_, -, hc⟩ := exists_isLowered_of_mem_lowerAfter h
  exact hc.1

theorem star_mem_of_mem_lower {s : List Char} (h : '*' ∈ lower s) : '*' ∈ s := by
  obtain ⟨c, hmem, hc⟩ := exists_isLowered_of_mem_lowerAfter h
  exact hc.2 rfl ▸ hmem

/-- No character is lost, though some become more than one. -/
theorem length_le_length_lowerAfter (before s : List Char) :
    s.length ≤ (lowerAfter before s).length := by
  induction s generalizing before with
  | nil => exact Nat.zero_le _
  | cons c cs ih =>
      have hrest := ih (c :: before)
      rw [lowerAfter, List.length_append, List.length_cons]
      split
      · rw [List.length_singleton]
        omega
      · have himage := List.length_pos_iff.2 (lowerChar_ne_nil c)
        omega

theorem lower_ne_nil {s : List Char} (h : s ≠ []) : lower s ≠ [] := by
  have hlength := length_le_length_lowerAfter [] s
  exact List.ne_nil_of_length_pos (Nat.lt_of_lt_of_le (List.length_pos_iff.2 h) hlength)

theorem eq_star_of_lower {s : List Char} (h : lower s = ['*']) : s = ['*'] := by
  have hlength : s.length ≤ (lower s).length := length_le_length_lowerAfter [] s
  have hmem : '*' ∈ s := star_mem_of_mem_lower (h ▸ List.mem_singleton_self '*')
  rw [h, List.length_singleton] at hlength
  obtain ⟨c, rfl⟩ :=
    List.length_eq_one_iff.1 (Nat.le_antisymm hlength (List.length_pos_of_mem hmem))
  rw [List.mem_singleton.1 hmem]

end Phrasebook.Text
