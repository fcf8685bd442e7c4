import MusicLabel.Python.Text

/-
  Python's `float`: an IEEE 754 binary64 value, kept as its 64-bit
  pattern so that every value of the type is a float and nothing else.

  The contract registry stores split fractions as floats, compares them
  against `0.0`, `1.0` and the tolerance `0.001`, subtracts them, and
  averages them (a sum, then a division by a count); the
  royalty engine turns a float into a `Decimal` through `str`, which is
  `float.__repr__`, the shortest decimal string that reads back as the
  same float.

  Main declarations:
    * `PyFloat`, `PyFloat.kind`
    * `PyFloat.ofRatio` (correctly rounded conversion of a ratio)
    * `PyFloat.sub`, `PyFloat.add`, `PyFloat.divNat`, `PyFloat.abs`
    * `PyFloat.le`, `PyFloat.lt`
    * `PyFloat.repr`
-/

------------------------------------------------------------
-- Bit Patterns
------------------------------------------------------------

namespace MusicLabel

/- A Python `float`, as its binary64 bit pattern. -/
structure PyFloat where
  bits : Nat
  isWord : bits < 2 ^ 64
  deriving DecidableEq

namespace PyFloat

/- The float with bit pattern `n` (taken modulo `2^64`). -/
def ofBits (n : Nat) : PyFloat :=
  ⟨n % 2 ^ 64, Nat.mod_lt _ (Nat.pos_pow_of_pos 64 (by omega))⟩

/- The sign bit. -/
def signBit (x : PyFloat) : Bool :=
  x.bits / 2 ^ 63 % 2 = 1

/- The 11-bit biased exponent field. -/
def field (x : PyFloat) : Nat :=
  x.bits / 2 ^ 52 % 2 ^ 11

/- The 52-bit trailing significand. -/
def fraction (x : PyFloat) : Nat :=
  x.bits % 2 ^ 52

/- The value a bit pattern encodes: `±significand * 2^exponent`. -/
inductive Kind
  | finite (negative : Bool) (significand : Nat) (exponent : Int)
  | infinity (negative : Bool)
  | nan
  deriving DecidableEq, Repr

/- Decode a bit pattern; subnormals and zeros have exponent `-1074`. -/
def kind (x : PyFloat) : Kind :=
  if x.field = 2047 then
    if x.fraction = 0 then .infinity x.signBit else .nan
  else if x.field = 0 then .finite x.signBit x.fraction (-1074)
  else .finite x.signBit (2 ^ 52 + x.fraction) ((x.field : Int) - 1075)

/- Encode sign, exponent field and trailing significand. -/
def pack (negative : Bool) (field fraction : Nat) : PyFloat :=
  ofBits ((if negative then 2 ^ 63 else 0) + field * 2 ^ 52 + fraction)

/- The signed zero. -/
def zero (negative : Bool) : PyFloat :=
  pack negative 0 0

/- The signed infinity. -/
def infinity (negative : Bool) : PyFloat :=
  pack negative 2047 0

/- The quiet NaN `float('nan')`. -/
def nan : PyFloat :=
  pack false 2047 (2 ^ 51)

/- `math.isnan`. -/
def isNaN (x : PyFloat) : Bool :=
  x.kind = .nan

end PyFloat

end MusicLabel

------------------------------------------------------------
-- Correct Rounding
------------------------------------------------------------

namespace MusicLabel

namespace PyFloat

/- `⌊log₂ (num / den)⌋` for positive `num` and `den`. -/
def floorLog2 (num den : Nat) : Int :=
  let guess : Int :=
    (Decimal.digitCount 2 num : Int) - Decimal.digitCount 2 den
  if 0 ≤ guess then
    if num < den * 2 ^ guess.toNat then guess - 1 else guess
  else if num * 2 ^ (-guess).toNat < den then guess - 1 else guess

/-
  The float nearest to `(-1)^negative * num / den`, ties to an even
  significand, overflowing to infinity: IEEE 754 round-to-nearest, the
  rounding of every float operation and of `float(str)`.
-/
def ofRatio (negative : Bool) (num den : Nat) : PyFloat :=
  if num = 0 then zero negative
  else
    let exponent := max (floorLog2 num den - 52) (-1074)
    let scaledNum := if 0 ≤ exponent then num else num * 2 ^ (-exponent).toNat
    let scaledDen := if 0 ≤ exponent then den * 2 ^ exponent.toNat else den
    let quotient := scaledNum / scaledDen
    let remainder := scaledNum % scaledDen
    let significand :=
      if scaledDen < 2 * remainder ∨
          (2 * remainder = scaledDen ∧ quotient % 2 = 1)
      then quotient + 1 else quotient
    let carry := significand = 2 ^ 53
    let significand := if carry then 2 ^ 52 else significand
    let exponent := if carry then exponent + 1 else exponent
    if 971 < exponent then infinity negative
    else if significand < 2 ^ 52 then pack negative 0 significand
    else pack negative (exponent + 1075).toNat (significand - 2 ^ 52)

/- The float nearest to `(-1)^negative * significand * 2^exponent`. -/
def ofDyadic (negative : Bool) (significand : Nat) (exponent : Int) : PyFloat :=
  if 0 ≤ exponent then ofRatio negative (significand * 2 ^ exponent.toNat) 1
  else ofRatio negative significand (2 ^ (-exponent).toNat)

/-
  The float a literal `digits * 10^exponent` denotes, such as `0.001`
  for `ofDecimal false 1 (-3)`.
-/
def ofDecimal (negative : Bool) (digits : Nat) (exponent : Int) : PyFloat :=
  if 0 ≤ exponent then ofRatio negative (digits * 10 ^ exponent.toNat) 1
  else ofRatio negative digits (10 ^ (-exponent).toNat)

end PyFloat

end MusicLabel

------------------------------------------------------------
-- Arithmetic and Comparison
------------------------------------------------------------

namespace MusicLabel

namespace PyFloat

/- A finite value as an integer at the binary exponent `base`. -/
def scaled
    (negative : Bool)
    (significand : Nat)
    (exponent base : Int) : Int :=
  Decimal.signed negative (significand * 2 ^ (exponent - base).toNat)

/-
  `x - y`: the exact difference, correctly rounded. An exact zero is
  `-0.0` only for `-0.0 - 0.0`; NaN results are the quiet NaN.
-/
def sub (x y : PyFloat) : PyFloat :=
  match x.kind, y.kind with
  | .nan, _ => nan
  | _, .nan => nan
  | .infinity s, .infinity t => if s = t then nan else infinity s
  | .infinity s, _ => infinity s
  | _, .infinity t => infinity (!t)
  | .finite s m e, .finite t n f =>
      let difference := scaled s m e (min e f) - scaled t n f (min e f)
      if difference = 0 then zero (s && !t)
      else ofDyadic (decide (difference < 0)) difference.natAbs (min e f)

/-
  `x + y`: the exact sum, correctly rounded. An exact zero is `-0.0`
  only for `-0.0 + -0.0`; NaN results are the quiet NaN.
-/
def add (x y : PyFloat) : PyFloat :=
  match x.kind, y.kind with
  | .nan, _ => nan
  | _, .nan => nan
  | .infinity s, .infinity t => if s = t then infinity s else nan
  | .infinity s, _ => infinity s
  | _, .infinity t => infinity t
  | .finite s m e, .finite t n f =>
      let total := scaled s m e (min e f) + scaled t n f (min e f)
      if total = 0 then zero (s && t)
      else ofDyadic (decide (total < 0)) total.natAbs (min e f)

/-
  `x / n` for a positive integer `n` below `2^53`, which converts to a
  float exactly: the exact quotient, correctly rounded, with the sign
  of `x`.
-/
def divNat (x : PyFloat) (n : Nat) : PyFloat :=
  match x.kind with
  | .nan => nan
  | .infinity s => infinity s
  | .finite s m e =>
      if 0 ≤ e then ofRatio s (m * 2 ^ e.toNat) n
      else ofRatio s m (n * 2 ^ (-e).toNat)

/- `abs(x)`: the sign bit cleared. -/
def abs (x : PyFloat) : PyFloat :=
  ofBits (x.bits % 2 ^ 63)

/-
  The ordering of two floats that are not NaNs, with `-0.0 = 0.0`
  (a NaN is never compared: the callers check for it first).
-/
def order : Kind → Kind → Ordering
  | .infinity s, .infinity t =>
      if s = t then .eq else if s then .lt else .gt
  | .infinity s, _ => if s then .lt else .gt
  | _, .infinity t => if t then .gt else .lt
  | .finite s m e, .finite t n f =>
      compare (scaled s m e (min e f)) (scaled t n f (min e f))
  | _, _ => .eq

/- `x <= y`: false when either operand is a NaN. -/
def le (x y : PyFloat) : Bool :=
  !x.isNaN && !y.isNaN && decide (order x.kind y.kind ≠ .gt)

/- `x < y`: false when either operand is a NaN. -/
def lt (x y : PyFloat) : Bool :=
  !x.isNaN && !y.isNaN && decide (order x.kind y.kind = .lt)

/- `x - x`: `0.0` for a finite `x`, a NaN for an infinity or a NaN. -/
theorem sub_self
    (x : PyFloat) :
    sub x x = (match x.kind with
      | .finite .. => zero false
      | _ => nan) := by
  unfold sub
  cases x.kind with
  | finite s m e => simp
  | infinity s => simp
  | nan => rfl

/- No finite float with a clear sign bit is below a zero. -/
theorem order_finite_zero
    (m : Nat)
    (e f : Int) :
    order (.finite false m e) (.finite false 0 f) ≠ .lt := by
  rw [order, Ne, compare_lt_iff_lt]
  simp only [scaled, Decimal.signed, zero_mul, Bool.false_eq_true, ↓reduceIte]
  omega

end PyFloat

end MusicLabel

------------------------------------------------------------
-- Shortest Repr
------------------------------------------------------------

namespace MusicLabel

namespace PyFloat

/- `⌊log₁₀ (num / den)⌋` for positive `num` and `den`. -/
def floorLog10 (num den : Nat) : Int :=
  if den ≤ num then (Decimal.numDigits (num / den) : Int) - 1
  else -(Decimal.numDigits ((den - 1) / num) : Int)

/-
  The `p`-digit candidates around `num / den`: the decimals
  `digits * 10^exponent` just below and just above it, with
  `exponent = ⌊log₁₀ (num / den)⌋ - p + 1`.
-/
def candidates (num den p : Nat) : Nat × Int :=
  let exponent := floorLog10 num den - p + 1
  let below :=
    if 0 ≤ exponent then num / (den * 10 ^ exponent.toNat)
    else num * 10 ^ (-exponent).toNat / den
  (below, exponent)

/-
  The search of `_Py_dg_dtoa` in mode 0: for `p = 1, 2, ...` the
  `p`-digit decimals around the value that read back as `x`; the nearer
  one wins, a tie goes to the even digit string.
-/
def shortestDigits
    (x : PyFloat)
    (negative : Bool)
    (num den : Nat) : Nat → Nat → Nat × Int
  | 0, _ => candidates num den 17
  | fuel + 1, p =>
      let (below, exponent) := candidates num den p
      let readsBack (digits : Nat) := ofDecimal negative digits exponent = x
      let twiceValue : Nat × Nat :=
        if 0 ≤ exponent then (2 * num, den * 10 ^ exponent.toNat)
        else (2 * num * 10 ^ (-exponent).toNat, den)
      let belowNearer :=
        twiceValue.1 < (2 * below + 1) * twiceValue.2 ∨
          (twiceValue.1 = (2 * below + 1) * twiceValue.2 ∧ below % 2 = 0)
      if readsBack below ∧ readsBack (below + 1) then
        (if belowNearer then below else below + 1, exponent)
      else if readsBack below then (below, exponent)
      else if readsBack (below + 1) then (below + 1, exponent)
      else shortestDigits x negative num den fuel (p + 1)

/- A digit string without its trailing zeros. -/
def stripZeros (digits : List Char) : List Char :=
  (digits.reverse.dropWhile (· = '0')).reverse

/-
  `format_float_short` in repr mode: `digits` read as `0.digits * 10^point`,
  printed with an exponent when `point ≤ -4` or `16 < point`, and with a
  trailing `.0` when the value is integral.
-/
def formatRepr (negative : Bool) (digits : String) (point : Int) : String :=
  let sign := if negative then "-" else ""
  let n := digits.length
  if point ≤ -4 ∨ 16 < point then
    let exponent := point - 1
    let mantissa :=
      if n = 1 then digits else digits.take 1 ++ "." ++ digits.drop 1
    let exponentDigits := Nat.repr exponent.natAbs
    sign ++ mantissa ++ "e" ++ (if exponent < 0 then "-" else "+") ++
      (if exponent.natAbs < 10 then "0" else "") ++ exponentDigits
  else if point ≤ 0 then sign ++ "0." ++ Text.zeros (-point).toNat ++ digits
  else if point < n then
    sign ++ digits.take point.toNat ++ "." ++ digits.drop point.toNat
  else sign ++ digits ++ Text.zeros (point.toNat - n) ++ ".0"

/- `float.__repr__`, which is also `str` on a float. -/
def repr (x : PyFloat) : String :=
  match x.kind with
  | .nan => "nan"
  | .infinity negative => if negative then "-inf" else "inf"
  | .finite negative 0 _ => if negative then "-0.0" else "0.0"
  | .finite negative significand exponent =>
      let num := if 0 ≤ exponent then significand * 2 ^ exponent.toNat else significand
      let den := if 0 ≤ exponent then 1 else 2 ^ (-exponent).toNat
      let (digits, digitsExponent) := shortestDigits x negative num den 17 1
      let point := (Decimal.numDigits digits : Int) + digitsExponent
      formatRepr negative (String.mk (stripZeros (Nat.repr digits).toList)) point

end PyFloat

end MusicLabel
