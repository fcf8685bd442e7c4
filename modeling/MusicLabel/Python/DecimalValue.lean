import MusicLabel.Python.DecimalOrder
import Mathlib.Algebra.Order.Field.Rat
import Mathlib.Data.Rat.Cast.Order

/-
  The numbers decimals denote, and what the context operations do to
  them. `cmp` compares the denoted rationals; `fix` keeps the sign of a
  result and never rounds it past a point of a coarser grid above it; a
  quantize to the cent gives a cent multiple of at most 28 digits; and
  the context difference of two amounts `0 ≤ b ≤ a` stays in `[0, a]`
  when `a` has at most 28 digits.

  Main declarations:
    * `Decimal.value`
    * `Decimal.cmp_finite`, `Decimal.cmp_swap`, `Decimal.le_finite_iff`
    * `Decimal.value_fix_le`, `Decimal.quantize_finite`, `Decimal.sub_bounds`
-/

------------------------------------------------------------
-- Denotation
------------------------------------------------------------

namespace MusicLabel

namespace Decimal

/- The rational a finite decimal denotes; infinities and NaNs denote `0`. -/
def value : Decimal → ℚ
  | finite negative coefficient exponent => (signed negative coefficient : ℚ) * 10 ^ exponent
  | _ => 0

@[simp] theorem value_finite_false
    (coefficient : Nat)
    (exponent : Int) :
    value (finite false coefficient exponent) = (coefficient : ℚ) * 10 ^ exponent := by
  simp [value, signed]

@[simp] theorem value_finite_zero
    (negative : Bool)
    (exponent : Int) :
    value (finite negative 0 exponent) = 0 := by
  cases negative <;> simp [value, signed]

theorem ten_zpow_pos
    (x : Int) :
    (0 : ℚ) < 10 ^ x :=
  zpow_pos (by norm_num) x

theorem coefficient_mul_nonneg
    (n : Nat)
    (x : Int) :
    0 ≤ (n : ℚ) * 10 ^ x :=
  mul_nonneg (Nat.cast_nonneg n) (ten_zpow_pos x).le

theorem coefficient_mul_le
    {n k : Nat}
    (x : Int)
    (h : n ≤ k) :
    (n : ℚ) * 10 ^ x ≤ (k : ℚ) * 10 ^ x :=
  mul_le_mul_of_nonneg_right (Nat.cast_le.mpr h) (ten_zpow_pos x).le

theorem value_nonneg
    (coefficient : Nat)
    (exponent : Int) :
    0 ≤ value (finite false coefficient exponent) := by
  rw [value_finite_false]
  exact coefficient_mul_nonneg coefficient exponent

/- A power of ten at `y ≥ x` is a natural power of ten times the one at `x`. -/
theorem ten_zpow_of_le
    {x y : Int}
    (h : x ≤ y) :
    (10 : ℚ) ^ y = (10 : ℚ) ^ (y - x).toNat * 10 ^ x := by
  rw [← zpow_natCast, Int.toNat_of_nonneg (by omega), ← zpow_add₀ (by norm_num), sub_add_cancel]

theorem signed_mul
    (negative : Bool)
    (n k : Nat) :
    signed negative (n * k) = signed negative n * k := by
  cases negative <;> simp [signed]

/- A finite value is its integer at a lower exponent, scaled back. -/
theorem value_eq_scaled
    {negative : Bool}
    {coefficient : Nat}
    {exponent base : Int}
    (h : base ≤ exponent) :
    value (finite negative coefficient exponent) =
      (scaled negative coefficient exponent base : ℚ) * 10 ^ base := by
  rw [value, scaled, signed_mul, ten_zpow_of_le h]
  push_cast
  rw [mul_assoc]

theorem compare_cast_mul
    {x y : Int}
    {p : ℚ}
    (hp : 0 < p) :
    compare ((x : ℚ) * p) ((y : ℚ) * p) = compare x y := by
  rcases lt_trichotomy x y with h | rfl | h
  · rw [compare_lt_iff_lt.mpr h, compare_lt_iff_lt]
    exact mul_lt_mul_of_pos_right (Int.cast_lt.mpr h) hp
  · rw [compare_eq_iff_eq.mpr rfl, compare_eq_iff_eq.mpr rfl]
  · rw [compare_gt_iff_gt.mpr h, compare_gt_iff_gt]
    exact mul_lt_mul_of_pos_right (Int.cast_lt.mpr h) hp

/- `Decimal._cmp` on finite operands compares the numbers they denote. -/
theorem cmp_finite
    (s : Bool) (c : Nat) (e : Int)
    (t : Bool) (d : Nat) (f : Int) :
    cmp (finite s c e) (finite t d f) =
      compare (value (finite s c e)) (value (finite t d f)) := by
  rw [value_eq_scaled (min_le_left e f), value_eq_scaled (min_le_right e f),
    compare_cast_mul (ten_zpow_pos _)]
  rfl

end Decimal

end MusicLabel

------------------------------------------------------------
-- Order
------------------------------------------------------------

namespace MusicLabel

namespace Decimal

variable {a b : Decimal}

theorem cmp_self
    (ha : a.isNaN = false) :
    cmp a a = .eq := by
  cases a with
  | finite s c e => rw [cmp_finite]; exact compare_eq_iff_eq.mpr rfl
  | infinity s => simp [cmp]
  | nan => simp [isNaN] at ha

/- Comparing the other way round swaps the answer. -/
theorem cmp_swap
    (ha : a.isNaN = false)
    (hb : b.isNaN = false) :
    cmp b a = (cmp a b).swap := by
  cases a with
  | nan => simp [isNaN] at ha
  | finite s c e =>
      cases b with
      | nan => simp [isNaN] at hb
      | finite t d f =>
          rw [cmp_finite, cmp_finite]
          exact (Batteries.OrientedCmp.symm _ _).symm
      | infinity t => cases t <;> rfl
  | infinity s =>
      cases b with
      | nan => simp [isNaN] at hb
      | finite t d f => cases s <;> rfl
      | infinity t => cases s <;> cases t <;> rfl

theorem le_refl_of_isNaN
    (ha : a.isNaN = false) :
    Le a a :=
  ⟨ha, ha, by simp [cmp_self ha]⟩

theorem le_of_cmp_lt
    (ha : a.isNaN = false)
    (hb : b.isNaN = false)
    (h : cmp a b = .lt) :
    Le a b :=
  ⟨ha, hb, by simp [h]⟩

theorem le_of_not_cmp_lt
    (ha : a.isNaN = false)
    (hb : b.isNaN = false)
    (h : cmp a b ≠ .lt) :
    Le b a :=
  ⟨hb, ha, by rw [cmp_swap ha hb]; cases hc : cmp a b <;> simp_all [Ordering.swap]⟩

/- On finite decimals `Le` is the order of the numbers. -/
theorem le_finite_iff
    {s t : Bool} {c d : Nat} {e f : Int} :
    Le (finite s c e) (finite t d f) ↔ value (finite s c e) ≤ value (finite t d f) := by
  simp [Le, isNaN, cmp_finite, compare_le_iff_le]

end Decimal

end MusicLabel

------------------------------------------------------------
-- Rounding
------------------------------------------------------------

namespace MusicLabel

namespace Decimal

/- A natural at exponent `x` below one at exponent `y ≥ x`, as naturals. -/
theorem le_mul_pow_of_value_le
    {n k : Nat}
    {x y : Int}
    (hxy : x ≤ y)
    (h : (n : ℚ) * 10 ^ x ≤ (k : ℚ) * 10 ^ y) :
    n ≤ k * 10 ^ (y - x).toNat := by
  rw [ten_zpow_of_le hxy, ← mul_assoc] at h
  exact_mod_cast le_of_mul_le_mul_right h (ten_zpow_pos x)

/- A value below another has its leading digit no higher. -/
theorem adjusted_le_of_value_le
    {c K : Nat}
    {e g : Int}
    (hc : 0 < c)
    (hle : (c : ℚ) * 10 ^ e ≤ (K : ℚ) * 10 ^ g) :
    (numDigits c : Int) + e ≤ numDigits K + g := by
  have hLow : (10 : ℚ) ^ ((numDigits c - 1 : Nat) + e) ≤ (c : ℚ) * 10 ^ e := by
    rw [zpow_add₀ (by norm_num), zpow_natCast]
    exact mul_le_mul_of_nonneg_right (by exact_mod_cast pow_pred_numDigits_le hc)
      (ten_zpow_pos e).le
  have hHigh : (K : ℚ) * 10 ^ g < (10 : ℚ) ^ ((numDigits K : Nat) + g) := by
    rw [zpow_add₀ (by norm_num), zpow_natCast]
    exact mul_lt_mul_of_pos_right (by exact_mod_cast lt_pow_numDigits K) (ten_zpow_pos g)
  have hExp := (zpow_lt_zpow_iff_right₀ (by norm_num : (1 : ℚ) < 10)).mp
    ((hLow.trans hle).trans_lt hHigh)
  have := one_le_numDigits c
  omega

/- A coefficient rounded to a grid at most as fine as `10^g` stays below `K * 10^g`. -/
theorem value_roundCoefficient_le
    {c K : Nat}
    {e E g : Int}
    (hRound : e < E)
    (hE : E ≤ g)
    (hle : (c : ℚ) * 10 ^ e ≤ (K : ℚ) * 10 ^ g) :
    (roundCoefficient .halfEven c (E - e).toNat : ℚ) * 10 ^ E ≤ (K : ℚ) * 10 ^ g := by
  have hSplit : 10 ^ (g - e).toNat = 10 ^ (g - E).toNat * 10 ^ (E - e).toNat := by
    rw [← pow_add, show (g - e).toNat = (g - E).toNat + (E - e).toNat by omega]
  have hCoefficient : c ≤ K * 10 ^ (g - E).toNat * 10 ^ (E - e).toNat := by
    rw [Nat.mul_assoc, ← hSplit]
    exact le_mul_pow_of_value_le (by omega) hle
  have hRounded := roundCoefficient_le .halfEven hCoefficient
  calc (roundCoefficient .halfEven c (E - e).toNat : ℚ) * 10 ^ E
      ≤ ((K * 10 ^ (g - E).toNat : Nat) : ℚ) * 10 ^ E := coefficient_mul_le E hRounded
    _ = (K : ℚ) * 10 ^ g := by
      push_cast
      rw [mul_assoc, ← ten_zpow_of_le hE]

/- Dropping the last digit and raising the exponent never increases a value. -/
theorem value_div_ten_le
    (n : Nat)
    (x : Int) :
    ((n / 10 : Nat) : ℚ) * 10 ^ (x + 1) ≤ (n : ℚ) * 10 ^ x := by
  have hDrop : ((n / 10 : Nat) : ℚ) * 10 ≤ n := by
    exact_mod_cast Nat.div_mul_le_self n 10
  rw [zpow_add_one₀ (by norm_num), mul_comm ((10 : ℚ) ^ x) 10, ← mul_assoc]
  exact mul_le_mul_of_nonneg_right hDrop (ten_zpow_pos x).le

/-
  `fix` of a non-negative exact result below a point `K * 10^g` of the
  grid of a 28-digit number stays below it: every rounding it makes is
  to a grid at most as fine as `10^g`.
-/
theorem value_fix_le
    {c K : Nat}
    {e g : Int}
    {r : Decimal}
    (hK : numDigits K ≤ prec)
    (hg : etiny ≤ g)
    (hle : (c : ℚ) * 10 ^ e ≤ (K : ℚ) * 10 ^ g)
    (h : fix false c e = .ok r) :
    value r ≤ (K : ℚ) * 10 ^ g := by
  unfold fix at h
  by_cases hc : c = 0
  · rw [if_pos hc] at h
    cases h
    simpa using coefficient_mul_nonneg K g
  rw [if_neg hc] at h
  have hDigits := adjusted_le_of_value_le (Nat.pos_of_ne_zero hc) hle
  have hE : max ((numDigits c : Int) + e - prec) etiny ≤ g := max_le (by omega) hg
  simp only [] at h
  split_ifs at h with hOverflow hRound hCarry hCarryOverflow
  · -- rounded, with a carry into a 29th digit: one digit less, one exponent more
    cases h
    rw [value_finite_false]
    exact (value_div_ten_le _ _).trans (value_roundCoefficient_le hRound hE hle)
  · cases h
    rw [value_finite_false]
    exact value_roundCoefficient_le hRound hE hle
  · cases h
    simpa using hle

/- `fix` keeps the sign of a non-negative result. -/
theorem value_fix_nonneg
    {c : Nat}
    {e : Int}
    {r : Decimal}
    (h : fix false c e = .ok r) :
    0 ≤ value r := by
  unfold fix at h
  simp only [] at h
  split_ifs at h <;> cases h <;> exact value_nonneg _ _

theorem value_fix_zero
    {negative : Bool}
    {e : Int}
    {r : Decimal}
    (h : fix negative 0 e = .ok r) :
    value r = 0 := by
  simp only [fix, ↓reduceIte, Except.ok.injEq] at h
  rw [← h, value_finite_zero]

/- A result of at most 28 digits at an exponent in range is left as it is. -/
theorem fix_of_numDigits_le
    {negative : Bool}
    {c : Nat}
    {e : Int}
    (hDigits : numDigits c ≤ prec)
    (hLow : etiny ≤ e)
    (hHigh : e ≤ etop) :
    fix negative c e = .ok (finite negative c e) := by
  have hTop : etop ≤ emax := by decide
  unfold fix
  by_cases hc : c = 0
  · simp [hc, max_eq_left hLow, min_eq_left (hHigh.trans hTop)]
  · have hNoOverflow : ¬ etop < (numDigits c : Int) + e - prec := by omega
    have hNoRound : ¬ e < max ((numDigits c : Int) + e - prec) etiny :=
      not_lt.mpr (max_le (by omega) hLow)
    simp only [hc, ↓reduceIte, hNoOverflow, hNoRound]

/-
  A quantize that returns a number returns it at the target exponent,
  with at most 28 digits.
-/
theorem quantize_finite
    {x r : Decimal}
    {t : Bool} {d : Nat} {target : Int}
    {rounding : Rounding}
    (hLow : etiny ≤ target)
    (hHigh : target ≤ etop)
    (h : quantize x (finite t d target) rounding = .ok r)
    (hr : r.isNaN = false) :
    ∃ s q, r = finite s q target ∧ numDigits q ≤ prec := by
  cases x with
  | nan negative signaling =>
      cases signaling <;> simp [quantize, checkNans] at h
      rw [← h] at hr
      simp [isNaN] at hr
  | infinity negative => simp [quantize, checkNans] at h
  | finite s c e =>
      have hOne : numDigits 0 ≤ prec := by decide
      have hRange : ¬ (target < etiny ∨ emax < target) := by
        have : etop ≤ emax := by decide
        omega
      simp only [quantize, checkNans, Option.getD_none, hRange, ↓reduceIte] at h
      split_ifs at h with hc _ _ hDigits
      · rw [fix_of_numDigits_le hOne hLow hHigh] at h
        cases h
        exact ⟨s, 0, rfl, hOne⟩
      · rw [fix_of_numDigits_le (not_lt.mp (not_or.mp hDigits).2) hLow hHigh] at h
        cases h
        exact ⟨s, _, rfl, not_lt.mp (not_or.mp hDigits).2⟩

/-
  The context difference `a - b` of two finite amounts `0 ≤ b ≤ a`,
  where `a` has at most 28 digits, lies in `[0, a]`: it may round, but
  never below zero nor above `a`.
-/
theorem sub_bounds
    {s t : Bool} {c d : Nat} {e f : Int}
    {r : Decimal}
    (hDigits : numDigits c ≤ prec)
    (hExponent : etiny ≤ e)
    (hb : Le (finite false 0 0) (finite t d f))
    (hba : Le (finite t d f) (finite s c e))
    (h : sub (finite s c e) (finite t d f) = .ok r) :
    Le (finite false 0 0) r ∧ Le r (finite s c e) := by
  rw [le_finite_iff, value_finite_zero] at hb
  rw [le_finite_iff] at hba
  simp only [sub, add, negate, checkNans, Option.getD_none, addFinite] at h
  set base := min e f
  set difference := scaled s c e base - scaled t d f base with hDifference
  have hExact : (difference : ℚ) * 10 ^ base = value (finite s c e) - value (finite t d f) := by
    rw [value_eq_scaled (min_le_left e f), value_eq_scaled (min_le_right e f), hDifference]
    push_cast
    rw [sub_mul]
  have hSum : signed s (c * 10 ^ (e - base).toNat) + signed (!t) (d * 10 ^ (f - base).toNat) =
      difference := by
    cases t <;> simp [hDifference, scaled, signed, Int.sub_eq_add_neg]
  rw [hSum] at h
  obtain ⟨s', c', e', rfl⟩ : ∃ s' c' e', r = finite s' c' e' := by
    split_ifs at h <;> exact fix_eq_finite h
  rw [le_finite_iff, le_finite_iff, value_finite_zero]
  split_ifs at h with hZero
  · rw [value_fix_zero h]
    exact ⟨le_rfl, hb.trans hba⟩
  · -- a non-zero difference is positive, so `a` is positive and not negative
    have hPos : 0 < difference := by
      have hNonneg : (0 : ℚ) ≤ difference := by
        have := hExact ▸ sub_nonneg.mpr hba
        exact (mul_nonneg_iff_of_pos_right (ten_zpow_pos base)).mp this
      exact lt_of_le_of_ne (by exact_mod_cast hNonneg) (Ne.symm hZero)
    simp only [show ¬ difference < 0 by omega, decide_False] at h
    have hGap : value (finite t d f) < value (finite s c e) := by
      have hGapPos : (0 : ℚ) < difference * 10 ^ base :=
        mul_pos (by exact_mod_cast hPos) (ten_zpow_pos base)
      rw [hExact] at hGapPos
      exact sub_pos.mp hGapPos
    have hA : value (finite s c e) = (c : ℚ) * 10 ^ e := by
      cases s
      · rfl
      · have hNeg : value (finite true c e) ≤ 0 := by
          simpa [value, signed] using coefficient_mul_nonneg c e
        exact absurd hb (not_le.mpr (hGap.trans_le hNeg))
    refine ⟨value_fix_nonneg h, ?_⟩
    rw [hA]
    refine value_fix_le hDigits hExponent ?_ h
    rw [← hA]
    have hAbs : ((difference.natAbs : Nat) : ℚ) = difference := by
      rw [Nat.cast_natAbs, abs_of_nonneg hPos.le]
    rw [hAbs, hExact]
    exact sub_le_self _ hb

end Decimal

end MusicLabel
