/-
# TokenFlow.Proofs.WholeSeconds -- whole numbers on the clock

Rounding leaves alone what is a multiple of the spacing around it, and every whole number
of seconds up to 2^53 is.  So such numbers are doubles as they are, and sums of them are
exact as long as they stay in this range; comparing them is comparing integers in any
range.
-/
import Mathlib.Algebra.Order.Ring.Nat
import Mathlib.Tactic.Positivity
import TokenFlow.Number.Amount

namespace TokenFlow.Number

set_option autoImplicit false

/-! ## Rounding -/

theorem roundDiv_of_dvd {numerator denominator : Nat} (divides : denominator ∣ numerator)
    (positive : 0 < denominator) : roundDiv numerator denominator = numerator / denominator := by
  have rest : numerator % denominator = 0 := Nat.mod_eq_zero_of_dvd divides
  rw [roundDiv, rest, Nat.mul_zero, if_pos positive]

namespace Binary64

theorem spacing_pos (units : Nat) : 0 < spacing units :=
  Nat.pow_pos (by decide)

/-- A multiple of the spacing is not rounded. -/
theorem roundRatio_of_dvd {units : Nat} (divides : spacing units ∣ units) :
    roundRatio units 1 = units := by
  rw [roundRatio, Nat.div_one, Nat.one_mul, roundDiv_of_dvd divides (spacing_pos units)]
  exact Nat.div_mul_cancel divides

variable {magnitude exponent : Nat}

/-- Up to 53 significant bits the spacing is no wider than the last of them. -/
theorem spacing_dvd (small : magnitude ≤ 2 ^ 53) (exponent : Nat) :
    spacing (magnitude * Nat.pow 2 exponent) ∣ magnitude * Nat.pow 2 exponent := by
  rw [Nat.pow_eq]
  rcases Nat.eq_zero_or_pos magnitude with rfl | positive
  · rw [Nat.zero_mul]
    exact Nat.dvd_zero _
  have some : magnitude * 2 ^ exponent ≠ 0 := (Nat.mul_pos positive (Nat.two_pow_pos _)).ne'
  have above : magnitude * 2 ^ exponent ≤ 2 ^ (53 + exponent) := by
    rw [Nat.pow_add]
    exact Nat.mul_le_mul_right _ small
  have below := Nat.log2_self_le some
  have length : (magnitude * 2 ^ exponent).log2 ≤ 53 + exponent :=
    (Nat.pow_le_pow_iff_right (by decide)).mp (below.trans above)
  rw [spacing, Nat.pow_eq]
  rcases Nat.lt_or_eq_of_le length with shorter | longest
  · exact (Nat.pow_dvd_pow 2 (by omega)).mul_left magnitude
  · -- there is only one number this long, and it is a power of two
    rw [longest] at below ⊢
    rw [above.antisymm below]
    exact Nat.pow_dvd_pow 2 (by omega)

theorem mul_pow_lt {bound : Nat} (small : magnitude ≤ 2 ^ 53) (room : 53 + exponent < bound) :
    magnitude * Nat.pow 2 exponent < Nat.pow 2 bound := by
  rw [Nat.pow_eq, Nat.pow_eq]
  have widest : magnitude * 2 ^ exponent ≤ 2 ^ (53 + exponent) := by
    rw [Nat.pow_add]
    exact Nat.mul_le_mul_right _ small
  exact widest.trans_lt (Nat.pow_lt_pow_right (by decide) room)

/-! ## Whole numbers -/

/-- The exponents do not matter, as long as 53 bits have room between them. -/
theorem exists_exponents :
    ∃ lowest highest, one = Nat.pow 2 lowest ∧ limit = Nat.pow 2 highest ∧
      53 + lowest < highest := by
  have exponents : one = Nat.pow 2 1074 ∧ limit = Nat.pow 2 2098 ∧ 53 + 1074 < 2098 := by
    decide +kernel
  exact ⟨1074, 2098, exponents⟩

theorem one_pos : (0 : Int) < one := by
  obtain ⟨lowest, highest, one_eq, -⟩ := exists_exponents
  rw [one_eq]
  exact Int.natCast_pos.mpr (Nat.pow_pos (by decide))

/-- A whole number of up to 53 bits is a double as it is. -/
theorem ofUnits_whole {n : Int} (small : n.natAbs ≤ 2 ^ 53) : ofUnits (n * one) = exactly n := by
  obtain ⟨lowest, highest, one_eq, limit_eq, room⟩ := exists_exponents
  have magnitude : (n * one).natAbs = n.natAbs * one := by
    rw [Int.natAbs_mul, Int.natAbs_natCast]
  have rounded : roundRatio (n * one).natAbs 1 = (n * one).natAbs := by
    rw [magnitude, one_eq]
    exact roundRatio_of_dvd (spacing_dvd small lowest)
  have inside : ¬ limit ≤ (n * one).natAbs := by
    rw [magnitude, one_eq, limit_eq]
    exact (mul_pow_lt small room).not_ge
  rw [ofUnits, ofRatio, rounded, if_neg inside, exactly]
  generalize n * (one : Int) = units
  by_cases negative : units < 0
  · rw [if_pos (decide_eq_true negative), if_neg (Int.natAbs_ne_zero.mpr negative.ne),
      Int.ofNat_natAbs_of_nonpos negative.le, Int.neg_neg]
  · rw [if_neg (by simp [negative]), Int.natAbs_of_nonneg (Int.not_lt.mp negative)]

theorem ofInt?_of_small {n : Int} (small : n.natAbs ≤ 2 ^ 53) : ofInt? n = some (exactly n) := by
  unfold ofInt?
  rw [ofUnits_whole small, exactly]

/-- A sum of whole numbers is exact when it has up to 53 bits. -/
theorem add_exactly {a b : Int} (small : (a + b).natAbs ≤ 2 ^ 53) :
    (exactly a).add (exactly b) = exactly (a + b) := by
  have sum : (exactly a).add (exactly b) = ofUnits (a * one + b * one) := rfl
  rw [sum, ← Int.add_mul, ofUnits_whole small]

/-- Whole numbers are compared as they are, in any range. -/
theorem le_exactly (a b : Int) : (exactly a).le (exactly b) = decide (a ≤ b) := by
  have units : (exactly a).le (exactly b) = decide (a * one ≤ b * one) := rfl
  rw [units]
  exact decide_eq_decide.mpr (Int.mul_le_mul_iff_of_pos_right one_pos)

end Binary64

end TokenFlow.Number
