import Mathlib.Data.Rat.Defs
import Mathlib.Algebra.Order.Field.Power

/-
  Python's `decimal.Decimal` under the default context, which is the
  only context the royalty engine runs in: 28 significant digits,
  `ROUND_HALF_EVEN`, `Emin = -999999`, `Emax = 999999`, and traps on
  `InvalidOperation`, `DivisionByZero` and `Overflow`.

  A finite value keeps its coefficient and exponent, as `Decimal` does:
  the exponent decides what `str` prints and which digits an operation
  rounds away. Each operation computes the exact triple and hands it to
  `fix`, the context rounding of `Decimal._fix`.

  Main declarations:
    * `Decimal`, `Decimal.Signal`
    * `Decimal.digitCount`, `Decimal.numDigits` and
      `Decimal.numDigits_le_iff`
    * `Decimal.roundCoefficient`, `Decimal.fix`
    * `Decimal.add`, `Decimal.sub`, `Decimal.mul`, `Decimal.quantize`
    * `Decimal.lt`, `Decimal.gt`, `Decimal.eq`, `Decimal.pyMin`
-/

------------------------------------------------------------
-- Values and the Default Context
------------------------------------------------------------

namespace MusicLabel

/-
  A `decimal.Decimal`: the finite number
  `(-1)^negative * coefficient * 10^exponent`, a signed infinity, or a
  quiet or signalling NaN.
-/
inductive Decimal
  | finite (negative : Bool) (coefficient : Nat) (exponent : Int)
  | infinity (negative : Bool)
  | nan (negative : Bool) (signaling : Bool)
  deriving DecidableEq, Repr

namespace Decimal

/-
  The conditions whose trap the default context enables: signalling one
  raises the exception of the same name.
-/
inductive Signal
  | invalidOperation
  | overflow
  deriving DecidableEq, Repr

/- `getcontext().prec`. -/
def prec : Nat := 28

/- `getcontext().Emax`. -/
def emax : Int := 999999

/- `getcontext().Emin`. -/
def emin : Int := -999999

/- `Context.Etiny()`: the least exponent of a subnormal result. -/
def etiny : Int := emin - prec + 1

/- `Context.Etop()`: the greatest exponent of a full-length result. -/
def etop : Int := emax - prec + 1

/- The integer `(-1)^negative * n`. -/
def signed (negative : Bool) (n : Nat) : Int :=
  if negative then -(n : Int) else n

/- `Decimal.is_nan()`. -/
def isNaN : Decimal → Bool
  | nan _ _ => true
  | _ => false

/- `Decimal.is_snan()`. -/
def isSignaling : Decimal → Bool
  | nan _ signaling => signaling
  | _ => false

/- `Decimal.copy_negate()`. -/
def negate : Decimal → Decimal
  | finite negative coefficient exponent =>
      finite (!negative) coefficient exponent
  | infinity negative => infinity (!negative)
  | nan negative signaling => nan (!negative) signaling

end Decimal

end MusicLabel

------------------------------------------------------------
-- Coefficient Digits
------------------------------------------------------------

namespace MusicLabel

namespace Decimal

/-
  Digit counting in base `base` with explicit fuel, so that it evaluates
  by `decide`.
-/
def digitsAux
    (base : Nat) : Nat → Nat → Nat
  | 0, _ => 1
  | fuel + 1, n =>
      if n < base then 1 else digitsAux base fuel (n / base) + 1

/- The number of base-`base` digits of `n`, one for `0`. -/
def digitCount (base n : Nat) : Nat :=
  digitsAux base n n

/- `len(str(n))`: the number of decimal digits of a coefficient. -/
def numDigits (n : Nat) : Nat :=
  digitCount 10 n

private theorem one_le_digitsAux
    (base fuel n : Nat) :
    1 ≤ digitsAux base fuel n := by
  cases fuel with
  | zero => simp [digitsAux]
  | succ fuel => unfold digitsAux; split <;> omega

private theorem digitsAux_le_iff
    {base : Nat}
    (hBase : 2 ≤ base)
    (fuel n k : Nat)
    (hFuel : n ≤ fuel)
    (hk : 1 ≤ k) :
    digitsAux base fuel n ≤ k ↔ n < base ^ k := by
  induction fuel generalizing n k with
  | zero =>
      have hn : n = 0 := by omega
      subst hn
      simp [digitsAux, hk, Nat.pos_pow_of_pos k (by omega : 0 < base)]
  | succ fuel ih =>
      by_cases hSmall : n < base
      · have hPow : base ≤ base ^ k :=
          Nat.le_self_pow (by omega) base
        simp only [digitsAux, hSmall, ↓reduceIte, hk, true_iff]
        omega
      · simp only [digitsAux, hSmall, ↓reduceIte]
        obtain ⟨j, rfl⟩ : ∃ j, k = j + 1 := ⟨k - 1, by omega⟩
        rcases Nat.eq_zero_or_pos j with hj | hj
        · subst hj
          have := one_le_digitsAux base fuel (n / base)
          simp only [zero_add, pow_one]
          omega
        · have hDiv : n / base ≤ fuel :=
            Nat.le_of_lt_succ (lt_of_lt_of_le
              (Nat.div_lt_self (by omega) (by omega)) hFuel)
          rw [Nat.add_le_add_iff_right, ih (n / base) j hDiv hj, pow_succ,
            Nat.div_lt_iff_lt_mul (by omega)]

/- A number has at most `k ≥ 1` digits exactly when it is below `base^k`. -/
theorem digitCount_le_iff
    {base n k : Nat}
    (hBase : 2 ≤ base)
    (hk : 1 ≤ k) :
    digitCount base n ≤ k ↔ n < base ^ k :=
  digitsAux_le_iff hBase n n k le_rfl hk

/- Every number has at least one digit. -/
theorem one_le_digitCount
    (base n : Nat) :
    1 ≤ digitCount base n :=
  one_le_digitsAux base n n

/- A number is below `base` to the power of its digit count. -/
theorem lt_pow_digitCount
    {base : Nat}
    (hBase : 2 ≤ base)
    (n : Nat) :
    n < base ^ digitCount base n :=
  (digitCount_le_iff hBase (one_le_digitCount base n)).mp le_rfl

/- A nonzero number is at least `base` to its digit count less one. -/
theorem pow_pred_digitCount_le
    {base n : Nat}
    (hBase : 2 ≤ base)
    (hn : 0 < n) :
    base ^ (digitCount base n - 1) ≤ n := by
  by_contra hLt
  have hOneLe := one_le_digitCount base n
  by_cases hOne : digitCount base n = 1
  · simp only [hOne, Nat.sub_self, pow_zero] at hLt
    omega
  · have hLe := (digitCount_le_iff (n := n) (k := digitCount base n - 1)
      hBase (by omega)).mpr (by omega)
    omega

/- A coefficient has at most `k ≥ 1` digits exactly when it is below `10^k`. -/
theorem numDigits_le_iff
    {n k : Nat}
    (hk : 1 ≤ k) :
    numDigits n ≤ k ↔ n < 10 ^ k :=
  digitCount_le_iff (by omega) hk

/- Every coefficient has at least one digit. -/
theorem one_le_numDigits
    (n : Nat) :
    1 ≤ numDigits n :=
  one_le_digitCount 10 n

/- A coefficient is below `10` to the power of its digit count. -/
theorem lt_pow_numDigits
    (n : Nat) :
    n < 10 ^ numDigits n :=
  lt_pow_digitCount (by omega) n

/- A nonzero coefficient is at least `10` to its digit count less one. -/
theorem pow_pred_numDigits_le
    {n : Nat}
    (hn : 0 < n) :
    10 ^ (numDigits n - 1) ≤ n :=
  pow_pred_digitCount_le (by omega) hn

end Decimal

end MusicLabel

------------------------------------------------------------
-- Context Rounding
------------------------------------------------------------

namespace MusicLabel

namespace Decimal

/- The rounding modes the royalty engine uses. -/
inductive Rounding
  | halfEven
  | halfUp
  deriving DecidableEq, Repr

/-
  Drop the last `shift` digits of a coefficient and round the quotient:
  `_round_half_even` and `_round_half_up` on the coefficient string.
-/
def roundCoefficient
    (rounding : Rounding)
    (coefficient shift : Nat) : Nat :=
  let unit := 10 ^ shift
  let quotient := coefficient / unit
  let remainder := coefficient % unit
  match rounding with
  | .halfEven =>
      if unit < 2 * remainder ∨ (2 * remainder = unit ∧ quotient % 2 = 1)
      then quotient + 1 else quotient
  | .halfUp =>
      if unit ≤ 2 * remainder then quotient + 1 else quotient

/- Rounding `c` to `10^shift` never passes a multiple of `10^shift` above it. -/
theorem roundCoefficient_le
    (rounding : Rounding)
    {coefficient bound shift : Nat}
    (h : coefficient ≤ bound * 10 ^ shift) :
    roundCoefficient rounding coefficient shift ≤ bound := by
  have hUnit : 0 < 10 ^ shift := Nat.pos_pow_of_pos shift (by decide)
  have hQuotient : coefficient / 10 ^ shift ≤ bound :=
    Nat.div_le_of_le_mul (by rw [Nat.mul_comm]; exact h)
  have hSplit := Nat.div_add_mod coefficient (10 ^ shift)
  unfold roundCoefficient
  rcases Nat.lt_or_ge (coefficient / 10 ^ shift) bound with hLt | hGe
  · cases rounding <;> dsimp only <;> split <;> omega
  · -- the quotient is the bound, so nothing is left over
    have hEq : coefficient / 10 ^ shift = bound := le_antisymm hQuotient hGe
    rw [hEq, Nat.mul_comm] at hSplit
    have hRemainder : coefficient % 10 ^ shift = 0 := by omega
    cases rounding <;> simp [hRemainder, hEq, hUnit.ne, hUnit.ne', Nat.not_lt.mpr hUnit.le]

/-
  `Decimal._fix`: round an exact finite result to `prec` digits (to
  `Etiny` for a subnormal one), then check its exponent against `Emax`.
  Overflow is trapped; the untrapped underflow signals only round.
-/
def fix
    (negative : Bool)
    (coefficient : Nat)
    (exponent : Int) : Except Signal Decimal :=
  if coefficient = 0 then
    .ok (finite negative 0 (min (max exponent etiny) emax))
  else
    let expMin := (numDigits coefficient : Int) + exponent - prec
    if etop < expMin then .error .overflow
    else
      let expMin := max expMin etiny
      if exponent < expMin then
        let rounded :=
          roundCoefficient .halfEven coefficient (expMin - exponent).toNat
        if prec < numDigits rounded then
          if etop < expMin + 1 then .error .overflow
          else .ok (finite negative (rounded / 10) (expMin + 1))
        else .ok (finite negative rounded expMin)
      else .ok (finite negative coefficient exponent)

end Decimal

end MusicLabel

------------------------------------------------------------
-- Arithmetic
------------------------------------------------------------

namespace MusicLabel

namespace Decimal

/-
  `Decimal._check_nans`: a signalling NaN operand signals, and otherwise
  the first quiet NaN operand is the result. `none` when neither operand
  is a NaN.
-/
def checkNans : Decimal → Decimal → Option (Except Signal Decimal)
  | nan _ true, _ => some (.error .invalidOperation)
  | _, nan _ true => some (.error .invalidOperation)
  | nan negative false, _ => some (.ok (nan negative false))
  | _, nan negative false => some (.ok (nan negative false))
  | _, _ => none

/- The exact sum of two finite operands at the smaller exponent. -/
def addFinite
    (negative₁ : Bool) (coefficient₁ : Nat) (exponent₁ : Int)
    (negative₂ : Bool) (coefficient₂ : Nat) (exponent₂ : Int) :
    Except Signal Decimal :=
  let exponent := min exponent₁ exponent₂
  let sum :=
    signed negative₁ (coefficient₁ * 10 ^ (exponent₁ - exponent).toNat) +
      signed negative₂ (coefficient₂ * 10 ^ (exponent₂ - exponent).toNat)
  if sum = 0 then fix (negative₁ && negative₂) 0 exponent
  else fix (decide (sum < 0)) sum.natAbs exponent

/-
  `Decimal.__add__`. The last case is never reached: `checkNans`
  answers for NaN operands.
-/
def add (a b : Decimal) : Except Signal Decimal :=
  (checkNans a b).getD <|
    match a, b with
    | infinity s, infinity t =>
        if s = t then .ok (infinity s) else .error .invalidOperation
    | infinity s, _ => .ok (infinity s)
    | _, infinity t => .ok (infinity t)
    | finite s c e, finite t d f => addFinite s c e t d f
    | _, _ => .error .invalidOperation

/- `Decimal.__sub__`: NaNs are checked before `b` is negated. -/
def sub (a b : Decimal) : Except Signal Decimal :=
  (checkNans a b).getD (add a b.negate)

/- `Decimal.__mul__`. -/
def mul (a b : Decimal) : Except Signal Decimal :=
  (checkNans a b).getD <|
    match a, b with
    | infinity _, finite _ 0 _ => .error .invalidOperation
    | finite _ 0 _, infinity _ => .error .invalidOperation
    | infinity s, infinity t => .ok (infinity (s != t))
    | infinity s, finite t _ _ => .ok (infinity (s != t))
    | finite s _ _, infinity t => .ok (infinity (s != t))
    | finite s c e, finite t d f => fix (s != t) (c * d) (e + f)
    | _, _ => .error .invalidOperation

/- `Decimal.adjusted()`: the exponent of the leading digit. -/
def adjusted : Decimal → Int
  | finite _ coefficient exponent => exponent + numDigits coefficient - 1
  | _ => 0

/-
  The coefficient of `Decimal._rescale` to exponent `target`: padded
  with zeros, or rounded when digits are dropped.
-/
def rescaleCoefficient
    (rounding : Rounding)
    (coefficient : Nat)
    (exponent target : Int) : Nat :=
  if target ≤ exponent then coefficient * 10 ^ (exponent - target).toNat
  else roundCoefficient rounding coefficient (target - exponent).toNat

/-
  `Decimal.quantize(exp, rounding)`: the value at the exponent of `exp`,
  or `InvalidOperation` when the result would need more than `prec`
  digits.
-/
def quantize
    (a exp : Decimal)
    (rounding : Rounding) : Except Signal Decimal :=
  (checkNans a exp).getD <|
    match a, exp with
    | infinity s, infinity _ => .ok (infinity s)
    | finite s c e, finite _ _ target =>
        if target < etiny ∨ emax < target then .error .invalidOperation
        else if c = 0 then fix s 0 target
        else if emax < a.adjusted then .error .invalidOperation
        else if (prec : Int) < a.adjusted - target + 1 then
          .error .invalidOperation
        else
          let q := rescaleCoefficient rounding c e target
          if emax < (finite s q target).adjusted ∨ prec < numDigits q then
            .error .invalidOperation
          else fix s q target
    | _, _ => .error .invalidOperation

end Decimal

end MusicLabel

------------------------------------------------------------
-- Comparison
------------------------------------------------------------

namespace MusicLabel

namespace Decimal

/- A finite value scaled to an integer at a common exponent `base`. -/
def scaled
    (negative : Bool)
    (coefficient : Nat)
    (exponent base : Int) : Int :=
  signed negative (coefficient * 10 ^ (exponent - base).toNat)

/-
  `Decimal._cmp` for operands that are not NaNs (a NaN is never
  compared: the callers check for them first).
-/
def cmp : Decimal → Decimal → Ordering
  | infinity s, infinity t =>
      if s = t then .eq else if s then .lt else .gt
  | infinity s, _ => if s then .lt else .gt
  | _, infinity t => if t then .gt else .lt
  | finite s c e, finite t d f =>
      compare (scaled s c e (min e f)) (scaled t d f (min e f))
  | _, _ => .eq

/-
  `Decimal.__lt__`: an ordering comparison with a NaN operand signals
  `InvalidOperation`.
-/
def lt (a b : Decimal) : Except Signal Bool :=
  if a.isNaN || b.isNaN then .error .invalidOperation
  else .ok (decide (cmp a b = .lt))

/- `Decimal.__gt__`, with the same NaN check as `lt`. -/
def gt (a b : Decimal) : Except Signal Bool :=
  if a.isNaN || b.isNaN then .error .invalidOperation
  else .ok (decide (cmp a b = .gt))

/-
  `Decimal.__eq__`: a signalling NaN signals, and a quiet NaN is unequal
  to everything.
-/
def eq (a b : Decimal) : Except Signal Bool :=
  if a.isSignaling || b.isSignaling then .error .invalidOperation
  else if a.isNaN || b.isNaN then .ok false
  else .ok (decide (cmp a b = .eq))

/-
  The built-in `min(x, y)` on two decimals: `y` replaces `x` only when
  `y < x`, so equal operands give `x`.
-/
def pyMin (x y : Decimal) : Except Signal Decimal := do
  if ← lt y x then pure y else pure x

end Decimal

end MusicLabel
