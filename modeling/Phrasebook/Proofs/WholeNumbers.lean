import Phrasebook.Number.Double

/-! Rounding keeps the order of whole numbers. A number is rounded in a last place that depends on its
length in bits. Of two numbers with the same last place the greater one has no less a significand
(`significand_mono`). If the last places differ, the significand of the lesser number is at most
twice the least one of the greater number, which the step between the places makes up for
(`significand_le`, `le_significand`). -/

namespace Phrasebook

namespace FloatFormat

theorem div_le_roundDiv (num den : Nat) : num / den ≤ roundDiv num den := by
  simp only [roundDiv]
  split
  · exact Nat.le_refl _
  · split <;> omega

theorem roundDiv_le (num den : Nat) : roundDiv num den ≤ num / den + 1 := by
  simp only [roundDiv]
  split
  · omega
  · split <;> omega

theorem roundDiv_mono {num num' den : Nat} (h : num ≤ num') :
    roundDiv num den ≤ roundDiv num' den := by
  rcases Nat.lt_or_eq_of_le (Nat.div_le_div_right (c := den) h) with hlt | heq
  · calc roundDiv num den ≤ num / den + 1 := roundDiv_le num den
      _ ≤ num' / den := hlt
      _ ≤ roundDiv num' den := div_le_roundDiv num' den
  · have hremainder : num % den ≤ num' % den := by
      have hnum := Nat.div_add_mod num den
      have hnum' := Nat.div_add_mod num' den
      rw [heq] at hnum
      omega
    -- Each of the three outcomes allows only itself and greater ones for the greater remainder.
    simp only [roundDiv, heq]
    grind

/-! ### The last place -/

variable (f : FloatFormat)

/-- The power of two that a whole number is rounded to a multiple of. -/
def lastPlace (n : Nat) : Int :=
  max ((n.log2 : Int) - f.fractionBits) f.leastExponent

/-- Which multiple of two to the power `place` a whole number is rounded to. -/
def significand (place : Int) (n : Nat) : Nat :=
  roundDiv (n * 2 ^ (-place).toNat) (2 ^ place.toNat)

theorem shift_one (n : Nat) (e : Int) : shift n 1 e = (n * 2 ^ e.toNat, 2 ^ (-e).toNat) := by
  rw [shift]
  split
  next h => rw [show (-e).toNat = 0 by omega, Nat.pow_zero]
  next h => rw [show e.toNat = 0 by omega, Nat.pow_zero, Nat.mul_one, Nat.one_mul]

theorem leadingExponent_one {n : Nat} (h : n ≠ 0) : leadingExponent n 1 = n.log2 := by
  have hlog : ((n.log2 : Int) - (1 : Nat).log2) = n.log2 := by
    rw [show (1 : Nat).log2 = 0 from rfl]
    omega
  have hle : 2 ^ n.log2 ≤ n := Nat.log2_self_le h
  simp only [leadingExponent, hlog, shift_one, Int.neg_neg, Int.toNat_natCast]
  rw [show (-(n.log2 : Int)).toNat = 0 by omega, Nat.pow_zero, Nat.mul_one, if_pos hle]

theorem nearest_one {n : Nat} (h : n ≠ 0) :
    f.nearest n 1 = min f.infinity
      ((f.lastPlace n - f.leastExponent).toNat * 2 ^ f.fractionBits +
        significand (f.lastPlace n) n) := by
  simp only [nearest, if_neg h, leadingExponent_one h, shift_one, Int.neg_neg]
  rfl

theorem significand_mono (place : Int) {n m : Nat} (h : n ≤ m) :
    significand place n ≤ significand place m :=
  roundDiv_mono (Nat.mul_le_mul_right _ h)

theorem significand_le {place : Int} {n bits : Nat} (h : (n.log2 : Int) ≤ place + bits) :
    significand place n ≤ 2 ^ (bits + 1) := by
  have hlt : n * 2 ^ (-place).toNat < 2 ^ (bits + 1) * 2 ^ place.toNat := by
    calc n * 2 ^ (-place).toNat < 2 ^ (n.log2 + 1) * 2 ^ (-place).toNat :=
          Nat.mul_lt_mul_of_pos_right Nat.lt_log2_self (Nat.two_pow_pos _)
      _ = 2 ^ (n.log2 + 1 + (-place).toNat) := (Nat.pow_add ..).symm
      _ ≤ 2 ^ (bits + 1 + place.toNat) := Nat.pow_le_pow_right Nat.zero_lt_two (by omega)
      _ = 2 ^ (bits + 1) * 2 ^ place.toNat := Nat.pow_add ..
  calc significand place n ≤ n * 2 ^ (-place).toNat / 2 ^ place.toNat + 1 := roundDiv_le ..
    _ ≤ 2 ^ (bits + 1) := (Nat.div_lt_iff_lt_mul (Nat.two_pow_pos _)).2 hlt

theorem le_significand {n bits : Nat} (h : n ≠ 0) :
    2 ^ bits ≤ significand ((n.log2 : Int) - bits) n := by
  have hle : 2 ^ bits * 2 ^ ((n.log2 : Int) - bits).toNat ≤
      n * 2 ^ (-((n.log2 : Int) - bits)).toNat := by
    calc 2 ^ bits * 2 ^ ((n.log2 : Int) - bits).toNat
        = 2 ^ (bits + ((n.log2 : Int) - bits).toNat) := (Nat.pow_add ..).symm
      _ = 2 ^ (n.log2 + (-((n.log2 : Int) - bits)).toNat) := by congr 1; omega
      _ = 2 ^ n.log2 * 2 ^ (-((n.log2 : Int) - bits)).toNat := Nat.pow_add ..
      _ ≤ n * 2 ^ (-((n.log2 : Int) - bits)).toNat :=
        Nat.mul_le_mul_right _ (Nat.log2_self_le h)
  exact Nat.le_trans ((Nat.le_div_iff_mul_le (Nat.two_pow_pos _)).2 hle) (div_le_roundDiv ..)

theorem lastPlace_mono {n m : Nat} (hn : n ≠ 0) (h : n ≤ m) : f.lastPlace n ≤ f.lastPlace m := by
  have hlog : n.log2 ≤ m.log2 :=
    (Nat.le_log2 (by omega)).2 (Nat.le_trans (Nat.log2_self_le hn) h)
  unfold lastPlace
  omega

/-- A greater whole number is not rounded to a lesser one. -/
theorem nearest_one_mono {n m : Nat} (h : n ≤ m) : f.nearest n 1 ≤ f.nearest m 1 := by
  by_cases hn : n = 0
  · rw [hn, nearest, if_pos rfl]
    exact Nat.zero_le _
  have hm : m ≠ 0 := by omega
  rw [f.nearest_one hn, f.nearest_one hm]
  have hleast : f.leastExponent ≤ f.lastPlace n := Int.le_max_right ..
  suffices hle : (f.lastPlace n - f.leastExponent).toNat * 2 ^ f.fractionBits +
      significand (f.lastPlace n) n ≤
      (f.lastPlace m - f.leastExponent).toNat * 2 ^ f.fractionBits +
        significand (f.lastPlace m) m by omega
  rcases Int.lt_or_eq_of_le (f.lastPlace_mono hn h) with hlt | heq
  · have hplace : f.lastPlace m = (m.log2 : Int) - f.fractionBits := by
      unfold lastPlace at hlt hleast ⊢
      omega
    have hfew : significand (f.lastPlace n) n ≤ 2 ^ (f.fractionBits + 1) := by
      apply significand_le
      unfold lastPlace
      omega
    have hmany : 2 ^ f.fractionBits ≤ significand (f.lastPlace m) m := hplace ▸ le_significand hm
    obtain ⟨gap, hgap⟩ : ∃ gap, (f.lastPlace m - f.leastExponent).toNat =
        (f.lastPlace n - f.leastExponent).toNat + 1 + gap := Nat.exists_eq_add_of_le (by omega)
    rw [hgap, Nat.add_mul, Nat.add_mul, Nat.one_mul]
    rw [Nat.pow_succ] at hfew
    omega
  · rw [heq]
    exact Nat.add_le_add_left (significand_mono _ h) _

end FloatFormat

theorem Double.rank_ofInt_mono {n m : Nat} (h : n ≤ m) : (ofInt n).rank ≤ (ofInt m).rank := by
  have hrank (k : Nat) : (ofInt k).rank = (FloatFormat.double.nearest k 1 : Nat) := by
    have hsign : ¬(k : Int) < 0 := by omega
    simp only [ofInt, ofRatio, rank, hsign, decide_false, Bool.false_eq_true, if_false,
      Int.natAbs_natCast]
  rw [hrank, hrank]
  exact Int.ofNat_le.2 (FloatFormat.double.nearest_one_mono h)

end Phrasebook
