import CozyLife.Python.Values
import Mathlib.Data.Rat.Cast.Order
import Mathlib.Algebra.Order.Field.Power
import Mathlib.Tactic.FieldSimp
import Mathlib.Tactic.Linarith
import Mathlib.Tactic.NormNum

/-! When a number is too large for a float. -/

namespace CozyLife.Python

/-- Half way from the largest float to the next power of two: from here on numbers are too large. -/
def FLOAT_LIMIT : Nat := 2 ^ 1024 - 2 ^ 970

theorem FLOAT_LIMIT_eq : (FLOAT_LIMIT : ℚ) = (2 ^ 54 - 1) * 2 ^ (970 : Int) := by
  have hle : 2 ^ 970 ≤ 2 ^ 1024 := by
    apply pow_le_pow_right₀ one_le_two
    omega
  rw [FLOAT_LIMIT, Nat.cast_sub hle, Nat.cast_pow, Nat.cast_pow, sub_one_mul]
  congr 1
  exact pow_add (2 : ℚ) 54 970

theorem FLOAT_LIMIT_pos : 0 < FLOAT_LIMIT := by
  apply Nat.sub_pos_of_lt
  apply pow_lt_pow_right₀ one_lt_two
  omega

/-- The exponent `ofRatio` rounds at. -/
def unitExponent (num den : Nat) : Int :=
  let guess : Int := (Nat.log2 num : Int) - Nat.log2 den - 52
  let (n, d) := scaleRatio num den guess
  max (if n / d < 2 ^ 52 then guess - 1 else guess) (-1074)

theorem ofRatio_infinite {num : Nat} (h : num ≠ 0) (negative : Bool) (den : Nat) :
    (∃ b, PyFloat.ofRatio negative num den = .infinity b) ↔
      971 < unitExponent num den ∨ 971 = unitExponent num den ∧
        roundHalfEven (scaleRatio num den (unitExponent num den)).1
          (scaleRatio num den (unitExponent num den)).2 = 2 ^ 53 := by
  have hrun : PyFloat.ofRatio negative num den =
      (let e := unitExponent num den
      let m := roundHalfEven (scaleRatio num den e).1 (scaleRatio num den e).2
      let carried := if m = 2 ^ 53 then (2 ^ 52, e + 1) else (m, e)
      if 971 < carried.2 then PyFloat.infinity negative
        else .finite negative carried.1 carried.2) := by
    rw [PyFloat.ofRatio, if_neg h]
    rfl
  rw [hrun]
  generalize unitExponent num den = e
  by_cases hm : roundHalfEven (scaleRatio num den e).1 (scaleRatio num den e).2 = 2 ^ 53
  · simp only [hm, ↓reduceIte]
    split <;> simp <;> omega
  · simp only [hm, ↓reduceIte]
    split <;> simp <;> omega

/-- A quotient is rounded up to `2 ^ 53` from half a unit below on: the last digit in front of it is
odd. -/
theorem roundHalfEven_top {n d : Nat} (hd : 0 < d) (h : n < 2 ^ 53 * d) :
    roundHalfEven n d = 2 ^ 53 ↔ (2 ^ 54 - 1) * d ≤ 2 * n := by
  have hq : n / d < 2 ^ 53 := (Nat.div_lt_iff_lt_mul hd).mpr h
  have hr := Nat.mod_lt n hd
  have hn := Nat.div_add_mod n d
  unfold roundHalfEven
  dsimp only
  generalize n / d = q at *
  generalize n % d = r at *
  by_cases htop : q = 2 ^ 53 - 1
  · subst htop
    split <;> omega
  · have hle : d * q ≤ d * (2 ^ 53 - 2) := Nat.mul_le_mul_left d (by omega)
    split <;> omega

section Scale

variable {num den : Nat} (hden : 0 < den)

include hden

/-- Scaling divides the value by a power of two. -/
theorem scaleRatio_value (e : Int) : 0 < (scaleRatio num den e).2 ∧
    ((scaleRatio num den e).1 : ℚ) / (scaleRatio num den e).2 = num / den / 2 ^ e := by
  have hq : (0 : ℚ) < den := by exact_mod_cast hden
  unfold scaleRatio
  split
  · rename_i he
    obtain ⟨k, rfl⟩ := Int.eq_ofNat_of_zero_le he
    refine ⟨by positivity, ?_⟩
    push_cast
    rw [Int.toNat_natCast, zpow_natCast]
    field_simp
  · rename_i he
    obtain ⟨k, hk⟩ := Int.eq_ofNat_of_zero_le (show 0 ≤ -e by omega)
    obtain rfl : e = -(k : Int) := by omega
    refine ⟨hden, ?_⟩
    push_cast
    rw [neg_neg, Int.toNat_natCast, zpow_neg, zpow_natCast]
    field_simp

/-- A number lies between the powers of two its logarithms say. -/
theorem ratio_bounds (hnum : num ≠ 0) :
    (2 : ℚ) ^ ((Nat.log2 num : Int) - Nat.log2 den - 1) ≤ num / den ∧
      (num : ℚ) / den < 2 ^ ((Nat.log2 num : Int) - Nat.log2 den + 1) := by
  have hq : (0 : ℚ) < den := by exact_mod_cast hden
  have hlow : (2 : ℚ) ^ Nat.log2 num ≤ num := by exact_mod_cast Nat.log2_self_le hnum
  have hhigh : (num : ℚ) < 2 ^ (Nat.log2 num + 1) := by exact_mod_cast Nat.lt_log2_self
  have hlow' : (2 : ℚ) ^ Nat.log2 den ≤ den := by exact_mod_cast Nat.log2_self_le hden.ne'
  have hhigh' : (den : ℚ) < 2 ^ (Nat.log2 den + 1) := by exact_mod_cast Nat.lt_log2_self
  constructor
  · rw [le_div_iff₀ hq]
    calc (2 : ℚ) ^ ((Nat.log2 num : Int) - Nat.log2 den - 1) * den
        ≤ 2 ^ ((Nat.log2 num : Int) - Nat.log2 den - 1) * 2 ^ (Nat.log2 den + 1) := by gcongr
      _ = 2 ^ Nat.log2 num := by
        rw [← zpow_natCast, ← zpow_add₀ two_ne_zero, ← zpow_natCast]
        congr 1
        omega
      _ ≤ num := hlow
  · rw [div_lt_iff₀ hq]
    calc (num : ℚ) < 2 ^ (Nat.log2 num + 1) := hhigh
      _ = 2 ^ ((Nat.log2 num : Int) - Nat.log2 den + 1) * 2 ^ Nat.log2 den := by
        rw [← zpow_natCast, ← zpow_natCast, ← zpow_add₀ two_ne_zero]
        congr 1
        omega
      _ ≤ 2 ^ ((Nat.log2 num : Int) - Nat.log2 den + 1) * den := by gcongr

/-- At that exponent a number has at most 53 binary digits, and has them all unless the exponent is
the least. -/
theorem unitExponent_bounds (hnum : num ≠ 0) :
    (num : ℚ) / den < 2 ^ (unitExponent num den + 53) ∧
      (unitExponent num den = -1074 ∨ (2 : ℚ) ^ (unitExponent num den + 52) ≤ num / den) := by
  obtain ⟨hlow, hhigh⟩ := ratio_bounds hden hnum
  unfold unitExponent
  dsimp only
  generalize hg : (Nat.log2 num : Int) - Nat.log2 den - 52 = guess
  obtain ⟨hd, hvalue⟩ := @scaleRatio_value num den hden guess
  have hpos : (0 : ℚ) < 2 ^ guess := by positivity
  -- whether the guess is one too high
  have hq : (scaleRatio num den guess).1 / (scaleRatio num den guess).2 < 2 ^ 52 ↔
      (num : ℚ) / den < 2 ^ (guess + 52) := by
    rw [Nat.div_lt_iff_lt_mul hd, zpow_add₀ two_ne_zero, mul_comm ((2 : ℚ) ^ guess),
      ← div_lt_iff₀ hpos, ← hvalue, div_lt_iff₀ (by exact_mod_cast hd)]
    norm_cast
  have hmono : ∀ a b : Int, a ≤ b → (2 : ℚ) ^ a ≤ 2 ^ b := by
    intro a b hab
    exact zpow_le_zpow_right₀ one_le_two hab
  split
  · rename_i hlt
    refine ⟨(hq.mp hlt).trans_le (hmono _ _ (by omega)), ?_⟩
    rcases le_total (guess - 1) (-1074) with hle | hle
    · exact .inl (max_eq_right hle)
    · rw [max_eq_left hle]
      exact .inr ((hmono _ _ (by omega)).trans hlow)
  · rename_i hge
    refine ⟨hhigh.trans_le (hmono _ _ (by omega)), ?_⟩
    rcases le_total guess (-1074) with hle | hle
    · exact .inl (max_eq_right hle)
    · rw [max_eq_left hle]
      exact .inr (not_lt.mp (fun h => hge (hq.mpr h)))

/-- In the last binade a number is rounded up to the next power of two exactly from the limit on. -/
theorem roundHalfEven_last (hlt : (num : ℚ) / den < 2 ^ (971 + 53 : Int)) :
    roundHalfEven (scaleRatio num den 971).1 (scaleRatio num den 971).2 = 2 ^ 53 ↔
      (2 ^ 54 - 1 : ℚ) * 2 ^ (970 : Int) ≤ num / den := by
  obtain ⟨hd, hvalue⟩ := @scaleRatio_value num den hden 971
  have hpos : (0 : ℚ) < 2 ^ (970 : Int) := by positivity
  rw [show (971 : Int) + 53 = 53 + (1 + 970) by rfl, zpow_add₀ two_ne_zero,
    zpow_add₀ two_ne_zero] at hlt
  rw [show (2 : ℚ) ^ (971 : Int) = 2 ^ (1 + 970 : Int) by rfl, zpow_add₀ two_ne_zero] at hvalue
  generalize (2 : ℚ) ^ (970 : Int) = unit at *
  generalize (scaleRatio num den 971).1 = n at *
  generalize (scaleRatio num den 971).2 = d at *
  have hdq : (0 : ℚ) < d := by exact_mod_cast hd
  have htop : n < 2 ^ 53 * d := by
    have hlt : (n : ℚ) / d < 2 ^ 53 := by
      rw [hvalue, div_lt_iff₀ (by positivity)]
      exact_mod_cast hlt
    rw [div_lt_iff₀ hdq] at hlt
    exact_mod_cast hlt
  rw [roundHalfEven_top hd htop]
  calc (2 ^ 54 - 1) * d ≤ 2 * n ↔ (2 ^ 54 - 1 : ℚ) * d ≤ 2 * n := by
        rw [← Nat.cast_le (α := ℚ)]
        norm_num
    _ ↔ (2 ^ 54 - 1 : ℚ) ≤ 2 * (n / d) := by rw [← mul_div_assoc, le_div_iff₀ hdq]
    _ ↔ (2 ^ 54 - 1 : ℚ) * unit ≤ num / den := by
      rw [hvalue, zpow_one, ← mul_div_assoc, mul_div_mul_left _ _ two_ne_zero, le_div_iff₀ hpos]

/-- A number is rounded to infinity exactly from the limit on. -/
theorem ofRatio_overflows (negative : Bool) :
    (∃ b, PyFloat.ofRatio negative num den = .infinity b) ↔ FLOAT_LIMIT * den ≤ num := by
  have hq : (0 : ℚ) < den := by exact_mod_cast hden
  by_cases hnum : num = 0
  · have hpos : 0 < FLOAT_LIMIT * den := Nat.mul_pos FLOAT_LIMIT_pos hden
    simp only [PyFloat.ofRatio, hnum, ↓reduceIte, reduceCtorEq, exists_false, false_iff]
    omega
  obtain ⟨hhigh, hlow⟩ := unitExponent_bounds hden hnum
  have hratio : FLOAT_LIMIT * den ≤ num ↔ (2 ^ 54 - 1 : ℚ) * 2 ^ (970 : Int) ≤ num / den := by
    rw [← FLOAT_LIMIT_eq, le_div_iff₀ hq]
    norm_cast
  rw [ofRatio_infinite hnum, hratio]
  generalize unitExponent num den = e at *
  rcases lt_trichotomy e 971 with he | rfl | he
  · refine iff_of_false (by omega) (not_le.mpr ?_)
    calc (num : ℚ) / den < 2 ^ (e + 53) := hhigh
      _ ≤ 2 ^ (53 + 970 : Int) := zpow_le_zpow_right₀ one_le_two (by omega)
      _ = 2 ^ 53 * 2 ^ (970 : Int) := zpow_add₀ two_ne_zero _ _
      _ ≤ (2 ^ 54 - 1) * 2 ^ (970 : Int) := by
        gcongr
        norm_num
  · simp only [lt_irrefl, true_and, false_or]
    exact roundHalfEven_last hden hhigh
  · refine iff_of_true (.inl he) ?_
    calc (2 ^ 54 - 1 : ℚ) * 2 ^ (970 : Int) ≤ 2 ^ 54 * 2 ^ (970 : Int) := by
          gcongr
          norm_num
      _ = 2 ^ (54 + 970 : Int) := (zpow_add₀ two_ne_zero _ _).symm
      _ ≤ 2 ^ (e + 52) := zpow_le_zpow_right₀ one_le_two (by omega)
      _ ≤ num / den := hlow.resolve_left (by omega)

end Scale

/-- `float(n)` raises exactly for an integer that is too large. -/
theorem ofInt_none (n : Int) : PyFloat.ofInt n = none ↔ FLOAT_LIMIT ≤ n.natAbs := by
  have h := @ofRatio_overflows n.natAbs 1 Nat.one_pos (decide (n < 0))
  rw [Nat.mul_one] at h
  rw [← h, PyFloat.ofInt]
  cases PyFloat.ofRatio (decide (n < 0)) n.natAbs 1 <;> simp

end CozyLife.Python
