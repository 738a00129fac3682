import Mathlib.Algebra.Order.Field.Power
import Mathlib.Algebra.Order.Ring.Rat
import Mathlib.Tactic.FieldSimp
import Mathlib.Tactic.Positivity
import Mathlib.Tactic.Ring
import LintDispatch.Number.Double

/-! Finite doubles that do not exceed a power of two. Rounding to the nearest number does not cross
a power of two, so sums and products are bounded as the exact ones are and no overflow is met. -/

namespace LintDispatch.Double

variable {x y : Double} {j k num den m : Nat} {e : Int}

def size (m : Nat) (e : Int) : ℚ :=
  m * 2 ^ e

/-- The number is finite and its magnitude is no more than `2 ^ k`. -/
def AtMost (k : Nat) (x : Double) : Prop :=
  ∃ negative m e, x = .finite negative m e ∧ size m e ≤ 2 ^ k

theorem ratio_pos (m : Nat) (e : Int) : 0 < (ratio m e).2 := by
  simp only [ratio]
  split
  · exact Nat.one_pos
  · exact Nat.two_pow_pos _

theorem ratio_size (m : Nat) (e : Int) : ((ratio m e).1 : ℚ) = size m e * (ratio m e).2 := by
  simp only [ratio, size]
  split
  · rename_i h
    obtain ⟨n, rfl⟩ := Int.eq_ofNat_of_zero_le h
    simp
  · rename_i h
    obtain ⟨n, rfl⟩ := Int.exists_eq_neg_ofNat (by omega : e ≤ 0)
    simp

theorem roundDiv_le {c : Nat} (h : num ≤ c * den) : roundDiv num den ≤ c := by
  rcases Nat.eq_zero_or_pos den with rfl | hden
  · simp_all [roundDiv]
  have hq : num / den ≤ c := Nat.div_le_of_le_mul (by rwa [Nat.mul_comm])
  rcases Nat.lt_or_eq_of_le hq with hq | hq
  · simp only [roundDiv]
    repeat' split
    all_goals omega
  · have hr : num % den = 0 := by
      have := Nat.div_add_mod num den
      rw [hq, Nat.mul_comm den c] at this
      omega
    simpa [roundDiv, hr, hden] using hq.le

theorem floorLog2_le (h : num ≤ 2 ^ k * den) (hnum : num ≠ 0) : floorLog2 num den ≤ k := by
  have hlog : num.log2 < k + (den.log2 + 1) := by
    rw [Nat.log2_lt hnum, Nat.pow_add]
    exact h.trans_lt (Nat.mul_lt_mul_of_pos_left Nat.lt_log2_self (Nat.two_pow_pos k))
  simp only [floorLog2]
  split <;> omega

theorem atMost_zero (negative : Bool) : AtMost k (zero negative) :=
  ⟨negative, 0, minExponent, rfl, by simp [size]⟩

theorem size_le_of_le {c : Nat} (h : m ≤ c) (hc : size c e = 2 ^ k) : size m e ≤ 2 ^ k := by
  rw [← hc]
  exact mul_le_mul_of_nonneg_right (Nat.cast_le.mpr h) (by positivity)

theorem size_rounded_le (h : num ≤ 2 ^ k * den) (he : e ≤ k) :
    size (if 0 ≤ e then roundDiv num (den * Nat.pow 2 e.toNat)
      else roundDiv (num * Nat.pow 2 (-e).toNat) den) e ≤ 2 ^ k := by
  split
  · rename_i h0
    obtain ⟨n, rfl⟩ := Int.eq_ofNat_of_zero_le h0
    obtain ⟨i, rfl⟩ := Nat.exists_eq_add_of_le (Int.ofNat_le.mp he)
    have hm : num ≤ 2 ^ i * (den * 2 ^ n) := by
      rw [Nat.mul_comm den, ← Nat.mul_assoc, ← Nat.pow_add, Nat.add_comm i]
      exact h
    refine size_le_of_le (roundDiv_le hm) ?_
    simp [size, pow_add, mul_comm]
  · rename_i h0
    obtain ⟨n, rfl⟩ := Int.exists_eq_neg_ofNat (by omega : e ≤ 0)
    have hm : num * 2 ^ n ≤ 2 ^ (k + n) * den := by
      rw [Nat.pow_add, Nat.mul_right_comm]
      exact Nat.mul_le_mul_right _ h
    rw [neg_neg, Int.toNat_natCast]
    refine size_le_of_le (roundDiv_le hm) ?_
    simp [size, pow_add]

/-- A mantissa that was rounded up to the next power of two is halved before the number is made. -/
theorem atMost_carried (negative : Bool) (hsize : size m e ≤ 2 ^ k) (he : e < maxExponent) :
    AtMost k (let (m, e) := if m = Nat.pow 2 53 then (Nat.pow 2 52, e + 1) else (m, e)
      if m = 0 then zero negative
      else if maxExponent < e then .infinite negative
      else .finite negative m e) := by
  by_cases hm : m = Nat.pow 2 53
  · have hhalf : size (Nat.pow 2 52) (e + 1) = size m e := by
      rw [size, size, hm, zpow_add_one₀ two_ne_zero]
      push_cast
      ring
    simp only [if_pos hm]
    rw [if_neg (Nat.two_pow_pos 52).ne', if_neg (by omega)]
    exact ⟨negative, _, _, rfl, hhalf ▸ hsize⟩
  · simp only [if_neg hm]
    split
    · exact atMost_zero negative
    · rw [if_neg (by omega)]
      exact ⟨negative, m, e, rfl, hsize⟩

/-- No overflow is met in rounding a ratio that is far below the greatest number. -/
theorem atMost_ofRatio (negative : Bool) (h : num ≤ 2 ^ k * den) (hk : k ≤ 900) :
    AtMost k (ofRatio negative num den) := by
  rw [ofRatio]
  split
  · exact atMost_zero negative
  · rename_i hnum
    have hf := floorLog2_le h hnum
    have hmin : minExponent = -1074 := rfl
    have hmax : maxExponent = 971 := rfl
    exact atMost_carried negative (size_rounded_le h (by omega)) (by omega)

theorem atMost_ofSize (negative : Bool) (h : size m e ≤ 2 ^ k) (hk : k ≤ 900) :
    AtMost k (ofRatio negative (ratio m e).1 (ratio m e).2) := by
  refine atMost_ofRatio negative ?_ hk
  rw [← Nat.cast_le (α := ℚ), ratio_size]
  push_cast
  exact mul_le_mul_of_nonneg_right h (Nat.cast_nonneg _)

theorem atMost_ofInt {n : Int} (h : n.natAbs ≤ 2 ^ k) (hk : k ≤ 900) : AtMost k (ofInt n) :=
  atMost_ofRatio _ (by simpa using h) hk

theorem size_nonneg (m : Nat) (e : Int) : 0 ≤ size m e := by
  unfold size
  positivity

theorem size_scaled (negative : Bool) {low : Int} (h : low ≤ e) :
    size (scaled negative m e low).natAbs low = size m e := by
  obtain ⟨n, rfl⟩ := Int.le.dest h
  have hn : (scaled negative m (low + n) low).natAbs = m * 2 ^ n := by
    cases negative <;> simp [scaled, Int.natAbs_mul, Int.natAbs_pow]
  rw [hn, size, size, zpow_add₀ two_ne_zero]
  push_cast
  rw [zpow_natCast]
  ring

theorem atMost_add (hx : AtMost k x) (hy : AtMost k y) (hk : k < 900) : AtMost (k + 1) (x.add y) := by
  obtain ⟨s, m, e, rfl, hm⟩ := hx
  obtain ⟨t, n, f, rfl, hn⟩ := hy
  simp only [add]
  split
  · exact atMost_zero _
  · refine atMost_ofSize _ ?_ hk
    let low := min e f
    let a := scaled s m e low
    let b := scaled t n f low
    have hab : size (a + b).natAbs low ≤ size a.natAbs low + size b.natAbs low := by
      simp only [size, ← add_mul]
      refine mul_le_mul_of_nonneg_right ?_ (by positivity)
      exact_mod_cast Int.natAbs_add_le a b
    calc size (a + b).natAbs low ≤ size a.natAbs low + size b.natAbs low := hab
      _ = size m e + size n f := by
        rw [size_scaled s (min_le_left e f), size_scaled t (min_le_right e f)]
      _ ≤ 2 ^ k + 2 ^ k := add_le_add hm hn
      _ = 2 ^ (k + 1) := by ring

theorem atMost_neg (hx : AtMost k x) : AtMost k x.neg := by
  obtain ⟨s, m, e, rfl, hm⟩ := hx
  exact ⟨!s, m, e, rfl, hm⟩

theorem atMost_mul (hx : AtMost j x) (hy : AtMost k y) (hk : j + k ≤ 900) :
    AtMost (j + k) (x.mul y) := by
  obtain ⟨s, m, e, rfl, hm⟩ := hx
  obtain ⟨t, n, f, rfl, hn⟩ := hy
  refine atMost_ofSize _ ?_ hk
  calc size (m * n) (e + f) = size m e * size n f := by
        simp only [size, zpow_add₀ (two_ne_zero' ℚ)]
        push_cast
        ring
    _ ≤ 2 ^ j * 2 ^ k := mul_le_mul hm hn (size_nonneg n f) (by positivity)
    _ = 2 ^ (j + k) := (pow_add 2 j k).symm

theorem atMost_truncate? (hx : AtMost k x) : ∃ n, x.truncate? = some n ∧ n.natAbs ≤ 2 ^ k := by
  obtain ⟨s, m, e, rfl, hm⟩ := hx
  have hdiv : (ratio m e).1 / (ratio m e).2 ≤ 2 ^ k := by
    refine Nat.div_le_of_le_mul ?_
    rw [← Nat.cast_le (α := ℚ), ratio_size, mul_comm]
    push_cast
    exact mul_le_mul_of_nonneg_left hm (Nat.cast_nonneg _)
  simp only [truncate?, Option.some.injEq, exists_eq_left']
  cases s <;> simpa only [Bool.false_eq_true, if_true, if_false, Int.natAbs_neg,
    Int.natAbs_natCast] using hdiv

def Below (bound : Nat) : Double → Prop
  | .finite _ m e => (ratio m e).1 < bound * (ratio m e).2
  | _ => False

theorem below_zero {bound : Nat} (negative : Bool) (h : 0 < bound) :
    (zero negative).Below bound := by
  have hpos := Nat.mul_pos h (ratio_pos 0 minExponent)
  have hzero : (ratio 0 minExponent).1 = 0 := by
    simp only [ratio]
    split <;> simp
  rwa [← hzero] at hpos

theorem Below.atMost {bound : Nat} (h : x.Below bound) (hb : bound ≤ 2 ^ k) : AtMost k x := by
  match x with
  | .finite negative m e =>
    have hpos : (0 : ℚ) < (ratio m e).2 := Nat.cast_pos.mpr (ratio_pos m e)
    have hle : (ratio m e).1 ≤ 2 ^ k * (ratio m e).2 := h.le.trans (Nat.mul_le_mul_right _ hb)
    rw [← Nat.cast_le (α := ℚ), ratio_size] at hle
    push_cast at hle
    exact ⟨negative, m, e, rfl, le_of_mul_le_mul_right hle hpos⟩
  | .nan => exact absurd h (by simp [Below])
  | .infinite _ => exact absurd h (by simp [Below])

end LintDispatch.Double
