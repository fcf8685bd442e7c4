import MusicLabel.Python.Decimal

/-
  The numeric order of decimals, as propositions: `NumEq` and `Le` hold
  only between non-NaN values, and the Python comparisons `==`, `<` and
  `min` are read back into them. A difference of numbers that does not
  raise is again a number, so the order applies to it.

  Main declarations:
    * `Decimal.NumEq`, `Decimal.Le`
    * `Decimal.eq_eq_ok`, `Decimal.lt_eq_ok`
    * `Decimal.pyMin_eq_ok`, `Decimal.pyMin_isNaN`, `Decimal.isNaN_of_sub`
-/

------------------------------------------------------------
-- Numeric Equality and Order
------------------------------------------------------------

namespace MusicLabel

namespace Decimal

/- Two decimals are numbers and equal as numbers. -/
def NumEq (a b : Decimal) : Prop :=
  a.isNaN = false ∧ b.isNaN = false ∧ cmp a b = .eq

instance (a b : Decimal) : Decidable (NumEq a b) := by
  unfold NumEq
  infer_instance

/- Two decimals are numbers and the first is at most the second. -/
def Le (a b : Decimal) : Prop :=
  a.isNaN = false ∧ b.isNaN = false ∧ cmp a b ≠ .gt

instance (a b : Decimal) : Decidable (Le a b) := by
  unfold Le
  infer_instance

/- `==` on operands that are not signalling NaNs is numeric equality. -/
theorem eq_eq_ok
    {a b : Decimal}
    (ha : a.isSignaling = false)
    (hb : b.isSignaling = false) :
    eq a b = .ok (decide (NumEq a b)) := by
  cases a <;> cases b <;> simp_all [eq, NumEq, isNaN, isSignaling]

/- `<` on numbers. -/
theorem lt_eq_ok
    {a b : Decimal}
    (ha : a.isNaN = false)
    (hb : b.isNaN = false) :
    lt a b = .ok (decide (cmp a b = .lt)) := by
  simp [lt, ha, hb]

/- `min(x, y)` on numbers is `y` when `y < x`, and `x` otherwise. -/
theorem pyMin_eq_ok
    {x y : Decimal}
    (hx : x.isNaN = false)
    (hy : y.isNaN = false) :
    pyMin x y = .ok (if cmp y x = .lt then y else x) := by
  simp only [pyMin, lt_eq_ok hy hx]
  by_cases h : cmp y x = .lt <;> simp [h, bind, Except.bind, pure, Except.pure]

/- `min(x, y)` raises exactly on a NaN operand. -/
theorem pyMin_isNaN
    {x y m : Decimal}
    (h : pyMin x y = .ok m) :
    x.isNaN = false ∧ y.isNaN = false := by
  simp only [pyMin, lt, bind, Except.bind] at h
  by_cases hNaN : y.isNaN || x.isNaN
  · simp [hNaN] at h
  · simp only [Bool.or_eq_true, not_or, Bool.not_eq_true] at hNaN
    exact ⟨hNaN.2, hNaN.1⟩

/- A signalling NaN is a NaN. -/
theorem isSignaling_of_isNaN
    {a : Decimal}
    (ha : a.isNaN = false) :
    a.isSignaling = false := by
  cases a <;> simp_all [isNaN, isSignaling]

/- Every result `fix` returns is finite. -/
theorem fix_eq_finite
    {negative : Bool}
    {c : Nat}
    {e : Int}
    {r : Decimal}
    (h : fix negative c e = .ok r) :
    ∃ s c' e', r = finite s c' e' := by
  unfold fix at h
  simp only [] at h
  split_ifs at h <;> cases h <;> exact ⟨_, _, _, rfl⟩

/- A difference of two numbers that does not raise is a number. -/
theorem isNaN_of_sub
    {a b r : Decimal}
    (ha : a.isNaN = false)
    (hb : b.isNaN = false)
    (h : sub a b = .ok r) :
    r.isNaN = false := by
  cases a with
  | nan => simp [isNaN] at ha
  | infinity s =>
      cases b with
      | nan => simp [isNaN] at hb
      | infinity t =>
          simp only [sub, checkNans, negate, add, Option.getD_none] at h
          split_ifs at h
          cases h
          rfl
      | finite t d f =>
          simp only [sub, checkNans, negate, add, Option.getD_none, Except.ok.injEq] at h
          subst h
          rfl
  | finite s c e =>
      cases b with
      | nan => simp [isNaN] at hb
      | infinity t =>
          simp only [sub, checkNans, negate, add, Option.getD_none, Except.ok.injEq] at h
          subst h
          rfl
      | finite t d f =>
          simp only [sub, checkNans, negate, add, Option.getD_none, addFinite] at h
          split at h <;> obtain ⟨_, _, _, rfl⟩ := fix_eq_finite h <;> rfl

end Decimal

end MusicLabel
