import Phrasebook.Text.Blank

/-! ASCII letters and digits as intervals of code points. Putting a letter in lower case gives a
small letter and leaves everything else as it is; letters are no digits, and neither are blank. -/

namespace Phrasebook.Text

variable {c : Char}

theorem isUpper_iff : c.isUpper = true ↔ 0x41 ≤ c.toNat ∧ c.toNat ≤ 0x5A := by
  show decide _ = true ↔ _
  rw [decide_eq_true_eq]
  exact and_congr UInt32.le_iff_toNat_le UInt32.le_iff_toNat_le

theorem isLower_iff : c.isLower = true ↔ 0x61 ≤ c.toNat ∧ c.toNat ≤ 0x7A := by
  show (decide _ && decide _) = true ↔ _
  rw [Bool.and_eq_true, decide_eq_true_eq, decide_eq_true_eq]
  exact and_congr UInt32.le_iff_toNat_le UInt32.le_iff_toNat_le

theorem isDigit_iff : c.isDigit = true ↔ 0x30 ≤ c.toNat ∧ c.toNat ≤ 0x39 := by
  show (decide _ && decide _) = true ↔ _
  rw [Bool.and_eq_true, decide_eq_true_eq, decide_eq_true_eq]
  exact and_congr UInt32.le_iff_toNat_le UInt32.le_iff_toNat_le

theorem isAlpha_iff : c.isAlpha = true ↔ c.isUpper = true ∨ c.isLower = true := by
  show (c.isUpper || c.isLower) = true ↔ _
  rw [Bool.or_eq_true]

theorem toLower_cases (c : Char) :
    (c.isUpper = true ∧ c.toLower.isLower = true) ∨ (c.isUpper = false ∧ c.toLower = c) := by
  by_cases h : c.val ≥ 'A'.val ∧ c.val ≤ 'Z'.val
  · have hupper : c.isUpper = true := decide_eq_true h
    have hrange : 0x41 ≤ c.toNat ∧ c.toNat ≤ 0x5A := isUpper_iff.1 hupper
    have hval : c.toLower.val = c.val + ('a'.val - 'A'.val) := congrArg Char.val (dif_pos h)
    have hnat : c.toLower.toNat = c.toNat + 32 := by
      show c.toLower.val.toNat = _
      rw [hval, UInt32.toNat_add]
      exact Nat.mod_eq_of_lt (show c.toNat + 32 < 4294967296 by omega)
    exact .inl ⟨hupper, isLower_iff.2 (by omega)⟩
  · exact .inr ⟨decide_eq_false h, dif_neg h⟩

theorem isAlpha_of_isAlpha_toLower (h : c.toLower.isAlpha = true) : c.isAlpha = true := by
  rcases toLower_cases c with ⟨hupper, -⟩ | ⟨-, heq⟩
  · exact isAlpha_iff.2 (.inl hupper)
  · rwa [heq] at h

theorem isAlpha_eq_false_of_isDigit (h : c.isDigit = true) : c.isAlpha = false := by
  rw [Bool.eq_false_iff]
  intro halpha
  rw [isAlpha_iff, isUpper_iff, isLower_iff] at halpha
  rw [isDigit_iff] at h
  omega

theorem ne_of_isDigit {d : Char} (hc : c.isDigit = true) (hd : d.isDigit = false) : c ≠ d := by
  rintro rfl
  rw [hc] at hd
  cases hd

/-- The characters of numbers and of words without accents. -/
def isPlain (c : Char) : Bool :=
  c.isAlpha || c.isDigit || c == '-' || c == '.'

theorem isPlain_iff :
    isPlain c = true ↔ c.isAlpha = true ∨ c.isDigit = true ∨ c = '-' ∨ c = '.' := by
  rw [isPlain, Bool.or_eq_true, Bool.or_eq_true, Bool.or_eq_true, beq_iff_eq, beq_iff_eq, or_assoc,
    or_assoc]

theorem isBlank_of_isPlain (h : isPlain c = true) : isBlank c = false := by
  rw [Bool.eq_false_iff]
  intro hblank
  simp only [isBlank, Bool.or_eq_true, Bool.and_eq_true, decide_eq_true_eq, beq_iff_eq] at hblank
  rcases isPlain_iff.1 h with halpha | hdigit | rfl | rfl
  · rw [isAlpha_iff, isUpper_iff, isLower_iff] at halpha
    omega
  · rw [isDigit_iff] at hdigit
    omega
  · exact absurd hblank (by decide)
  · exact absurd hblank (by decide)

end Phrasebook.Text
