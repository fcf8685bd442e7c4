import MusicLabel.Python.Float
import MusicLabel.Python.DecimalValue
import Mathlib.Data.Int.Log
import Mathlib.Data.Rat.Floor

/-
  The numbers floats denote, and what rounding does to them.

  `roundBinary` is binary64 rounding on the rationals: to the nearest
  multiple of the last significand bit of the binade, ties to an even
  significand, with no upper limit on the exponent. It is monotone and
  fixes every float. The bit-level `ofRatio` computes it, overflowing to
  an infinity from `2^1024` on, and so `x - y`, `x + y` and `x / n` on
  finite floats are their exact results rounded once; `abs` and `<`
  then act on the numbers these encode.

  Correctness is proven by:
    * `PyFloat.floorLog2_eq_log`: the exponent estimate of `ofRatio`
    * `PyFloat.roundEven_natCast_div`: its round-half-even step
    * `PyFloat.kind_ofRatio`: `ofRatio` encodes `roundBinary`

  Main declarations:
    * `PyFloat.roundEven`, `PyFloat.ulpExponent`, `PyFloat.roundBinary`
    * `PyFloat.roundBinary_mono`, `PyFloat.roundBinary_of_float`
    * `PyFloat.Encodes`, `PyFloat.Kind.value`
    * `PyFloat.kind_sub`, `PyFloat.kind_add`, `PyFloat.kind_divNat`
    * `PyFloat.encodes_abs`, `PyFloat.lt_of_encodes`
-/

------------------------------------------------------------
-- Round Half to Even
------------------------------------------------------------

namespace MusicLabel

namespace PyFloat

/- Round half to even: the nearest integer, the even one on a tie. -/
def roundEven (x : ℚ) : ℤ :=
  if 1 / 2 < x - ⌊x⌋ ∨ (x - ⌊x⌋ = 1 / 2 ∧ ⌊x⌋ % 2 = 1) then ⌊x⌋ + 1 else ⌊x⌋

@[simp] theorem roundEven_intCast
    (n : ℤ) :
    roundEven n = n := by
  simp [roundEven]

/- Rounding half to even is monotone. -/
theorem roundEven_mono
    {x y : ℚ}
    (h : x ≤ y) :
    roundEven x ≤ roundEven y := by
  have hFloor : ⌊x⌋ ≤ ⌊y⌋ := Int.floor_mono h
  rcases hFloor.lt_or_eq with hLt | hEq
  · -- a smaller integer part rounds to at most the larger one
    unfold roundEven
    split_ifs <;> omega
  · -- one integer part: whenever `x` rounds up, so does the larger `y`
    have hFrac : x - ⌊x⌋ ≤ y - ⌊x⌋ := sub_le_sub_right h _
    have hUp : (1 / 2 < x - ⌊x⌋ ∨ (x - ⌊x⌋ = 1 / 2 ∧ ⌊x⌋ % 2 = 1)) →
        (1 / 2 < y - ⌊x⌋ ∨ (y - ⌊x⌋ = 1 / 2 ∧ ⌊x⌋ % 2 = 1)) := by
      rintro (hx | ⟨hx, hOdd⟩)
      · exact .inl (hx.trans_le hFrac)
      · rcases (hx ▸ hFrac).lt_or_eq with hHalf | hHalf
        · exact .inl hHalf
        · exact .inr ⟨hHalf.symm, hOdd⟩
    unfold roundEven
    rw [← hEq]
    split_ifs with hx hy <;> first | omega | exact absurd (hUp hx) hy

/- Rounding a quotient of naturals: the quotient, plus one past the half. -/
theorem roundEven_natCast_div
    (n : ℕ)
    {d : ℕ}
    (hd : 0 < d) :
    roundEven ((n : ℚ) / d) =
      ((if d < 2 * (n % d) ∨ (2 * (n % d) = d ∧ n / d % 2 = 1) then n / d + 1 else n / d : ℕ)
        : ℤ) := by
  have hdq : (0 : ℚ) < d := by exact_mod_cast hd
  have hFloor : ⌊(n : ℚ) / d⌋ = ((n / d : ℕ) : ℤ) := by
    rw [Rat.floor_natCast_div_natCast]; push_cast; rfl
  have hFrac : (n : ℚ) / d - ((n / d : ℕ) : ℤ) = ((n % d : ℕ) : ℚ) / d := by
    have hn : (n : ℚ) = d * ((n / d : ℕ) : ℚ) + ((n % d : ℕ) : ℚ) := by
      exact_mod_cast (Nat.div_add_mod n d).symm
    rw [Int.cast_natCast, eq_div_iff hdq.ne', sub_mul, div_mul_cancel₀ _ hdq.ne', hn]
    ring
  have hHalf : (1 / 2 : ℚ) < ((n % d : ℕ) : ℚ) / d ↔ d < 2 * (n % d) := by
    rw [div_lt_div_iff₀ two_pos hdq, one_mul]
    norm_cast
    omega
  have hTie : ((n % d : ℕ) : ℚ) / d = 1 / 2 ↔ 2 * (n % d) = d := by
    rw [div_eq_div_iff hdq.ne' two_ne_zero, one_mul]
    norm_cast
    omega
  have hOdd : ((n / d : ℕ) : ℤ) % 2 = 1 ↔ n / d % 2 = 1 := by omega
  unfold roundEven
  rw [hFloor, hFrac]
  simp only [hHalf, hTie, hOdd]
  split_ifs <;> simp

end PyFloat

end MusicLabel

------------------------------------------------------------
-- The Exponent of a Ratio
------------------------------------------------------------

namespace MusicLabel

namespace PyFloat

theorem two_zpow_pos
    (k : ℤ) :
    (0 : ℚ) < 2 ^ k :=
  zpow_pos two_pos k

theorem two_pow_mul_two_zpow
    (n : ℕ)
    (e : ℤ) :
    (2 : ℚ) ^ n * 2 ^ e = 2 ^ ((n : ℤ) + e) := by
  rw [zpow_add₀ two_ne_zero, zpow_natCast]

/- `⌊log₂ r⌋` is the exponent of the power of two just below `r`. -/
theorem log_two_eq
    {r : ℚ}
    {k : ℤ}
    (hLow : 2 ^ k ≤ r)
    (hHigh : r < 2 ^ (k + 1)) :
    Int.log 2 r = k := by
  have hr : 0 < r := lt_of_lt_of_le (two_zpow_pos k) hLow
  have h1 := (Int.zpow_le_iff_le_log (b := 2) one_lt_two hr).mp (by exact_mod_cast hLow)
  have h2 := (Int.lt_zpow_iff_log_lt (b := 2) one_lt_two hr).mp (by exact_mod_cast hHigh)
  omega

/- A positive natural lies between the powers of two at its bit length. -/
theorem two_pow_digitCount_bounds
    {n : ℕ}
    (hn : 0 < n) :
    (2 : ℚ) ^ ((Decimal.digitCount 2 n : ℤ) - 1) ≤ n ∧
      (n : ℚ) < 2 ^ (Decimal.digitCount 2 n : ℤ) := by
  have hOne := Decimal.one_le_digitCount 2 n
  have hLow := Decimal.pow_pred_digitCount_le (le_refl 2) hn
  have hHigh := Decimal.lt_pow_digitCount (le_refl 2) n
  constructor
  · have hPred :
        ((Decimal.digitCount 2 n : ℤ) - 1) = ((Decimal.digitCount 2 n - 1 : ℕ) : ℤ) := by
      omega
    rw [hPred, zpow_natCast]
    exact_mod_cast hLow
  · rw [zpow_natCast]
    exact_mod_cast hHigh

/- `floorLog2` computes `⌊log₂ (num / den)⌋`. -/
theorem floorLog2_eq_log
    {num den : ℕ}
    (hNum : 0 < num)
    (hDen : 0 < den) :
    floorLog2 num den = Int.log 2 ((num : ℚ) / den) := by
  obtain ⟨hNumLow, hNumHigh⟩ := two_pow_digitCount_bounds hNum
  obtain ⟨hDenLow, hDenHigh⟩ := two_pow_digitCount_bounds hDen
  set a := (Decimal.digitCount 2 num : ℤ)
  set b := (Decimal.digitCount 2 den : ℤ)
  have hDenPos : (0 : ℚ) < den := by exact_mod_cast hDen
  -- the ratio is within a factor of two of `2^(a - b)`
  have hLow : (2 : ℚ) ^ (a - b - 1) < num / den := by
    rw [lt_div_iff₀ hDenPos]
    calc (2 : ℚ) ^ (a - b - 1) * den < 2 ^ (a - b - 1) * 2 ^ b :=
          mul_lt_mul_of_pos_left hDenHigh (two_zpow_pos _)
      _ = 2 ^ (a - 1) := by rw [← zpow_add₀ two_ne_zero]; ring_nf
      _ ≤ num := hNumLow
  have hHigh : (num : ℚ) / den < 2 ^ (a - b + 1) := by
    rw [div_lt_iff₀ hDenPos]
    calc (num : ℚ) < 2 ^ a := hNumHigh
      _ = 2 ^ (a - b + 1) * 2 ^ (b - 1) := by rw [← zpow_add₀ two_ne_zero]; ring_nf
      _ ≤ 2 ^ (a - b + 1) * den := mul_le_mul_of_nonneg_left hDenLow (two_zpow_pos _).le
  -- the test in `floorLog2` is `num / den < 2^(a - b)`
  have hTest : (if 0 ≤ a - b then num < den * 2 ^ (a - b).toNat
      else num * 2 ^ (-(a - b)).toNat < den) ↔ (num : ℚ) / den < 2 ^ (a - b) := by
    rw [div_lt_iff₀ hDenPos]
    split_ifs with hSign
    · rw [← Int.toNat_of_nonneg hSign, zpow_natCast, Int.toNat_of_nonneg hSign, mul_comm]
      exact_mod_cast Iff.rfl
    · have hPow : (2 : ℚ) ^ (a - b) = (((2 ^ (-(a - b)).toNat : ℕ) : ℚ))⁻¹ := by
        rw [Nat.cast_pow, Nat.cast_ofNat, ← zpow_natCast, ← zpow_neg,
          Int.toNat_of_nonneg (by omega), neg_neg]
      rw [hPow, inv_mul_eq_div, lt_div_iff₀ (by positivity)]
      exact_mod_cast Iff.rfl
  have hDef : floorLog2 num den =
      if (if 0 ≤ a - b then num < den * 2 ^ (a - b).toNat
        else num * 2 ^ (-(a - b)).toNat < den) then a - b - 1 else a - b := by
    unfold floorLog2
    dsimp only
    split_ifs <;> rfl
  rw [hDef]
  simp only [hTest]
  split_ifs with hLt
  · exact (log_two_eq hLow.le (by rwa [sub_add_cancel])).symm
  · exact (log_two_eq (not_lt.mp hLt) hHigh).symm

end PyFloat

end MusicLabel

------------------------------------------------------------
-- Binary64 Rounding
------------------------------------------------------------

namespace MusicLabel

namespace PyFloat

/-
  The exponent of the last significand bit of the binary64 numbers
  around `x > 0`: 52 places below its leading bit, and never below the
  subnormal exponent `-1074`.
-/
def ulpExponent (x : ℚ) : ℤ :=
  max (Int.log 2 x - 52) (-1074)

/-
  `x` rounded to the nearest multiple of `2^ulpExponent x`, ties to an
  even multiple: binary64 rounding, with no upper limit on the exponent.
-/
def roundBinary (x : ℚ) : ℚ :=
  roundEven (x / 2 ^ ulpExponent x) * 2 ^ ulpExponent x

theorem roundEven_le_of_le
    {x : ℚ}
    {n : ℤ}
    (h : x ≤ n) :
    roundEven x ≤ n :=
  roundEven_intCast n ▸ roundEven_mono h

theorem le_roundEven_of_le
    {x : ℚ}
    {n : ℤ}
    (h : (n : ℚ) ≤ x) :
    n ≤ roundEven x :=
  roundEven_intCast n ▸ roundEven_mono h

/- Scaled to its last bit, `x` is below `2^53`. -/
theorem div_two_zpow_ulpExponent_lt
    (x : ℚ) :
    x / 2 ^ ulpExponent x < 2 ^ 53 := by
  rw [div_lt_iff₀ (two_zpow_pos _), ← zpow_natCast, ← zpow_add₀ two_ne_zero]
  calc x < 2 ^ (Int.log 2 x + 1) := by exact_mod_cast Int.lt_zpow_succ_log_self one_lt_two x
    _ ≤ 2 ^ ((53 : ℕ) + ulpExponent x) :=
        zpow_le_zpow_right₀ one_le_two (by simp only [ulpExponent]; omega)

/- Scaled to its last bit, a normal `x` is at least `2^52`. -/
theorem le_div_two_zpow_ulpExponent
    {x : ℚ}
    (hx : 0 < x)
    (hNormal : ulpExponent x = Int.log 2 x - 52) :
    2 ^ 52 ≤ x / 2 ^ ulpExponent x := by
  rw [le_div_iff₀ (two_zpow_pos _), ← zpow_natCast, ← zpow_add₀ two_ne_zero, hNormal]
  calc (2 : ℚ) ^ ((52 : ℕ) + (Int.log 2 x - 52)) = 2 ^ Int.log 2 x := by ring_nf
    _ ≤ x := by exact_mod_cast Int.zpow_log_le_self one_lt_two hx

/- Rounding is monotone. -/
theorem roundBinary_mono
    {x y : ℚ}
    (hx : 0 < x)
    (h : x ≤ y) :
    roundBinary x ≤ roundBinary y := by
  have hUlp : ulpExponent x ≤ ulpExponent y := by
    have := Int.log_mono_right (b := 2) hx h
    simp only [ulpExponent]; omega
  rcases hUlp.lt_or_eq with hLt | hEq
  · -- `y` is normal and at least the binade top of `x`
    have hy := lt_of_lt_of_le hx h
    have hNormal : ulpExponent y = Int.log 2 y - 52 := by
      simp only [ulpExponent] at hLt ⊢; omega
    have hxTop : roundBinary x ≤ 2 ^ (ulpExponent y + 52) := by
      calc roundBinary x ≤ ((2 ^ 53 : ℤ) : ℚ) * 2 ^ ulpExponent x := by
            refine mul_le_mul_of_nonneg_right ?_ (two_zpow_pos _).le
            exact_mod_cast roundEven_le_of_le
              (by push_cast; exact (div_two_zpow_ulpExponent_lt x).le)
        _ = 2 ^ (ulpExponent x + 53) := by
            rw [Int.cast_pow, Int.cast_ofNat, two_pow_mul_two_zpow, add_comm, Nat.cast_ofNat]
        _ ≤ 2 ^ (ulpExponent y + 52) := zpow_le_zpow_right₀ one_le_two (by omega)
    have hyBottom : 2 ^ (ulpExponent y + 52) ≤ roundBinary y := by
      calc (2 : ℚ) ^ (ulpExponent y + 52) = ((2 ^ 52 : ℤ) : ℚ) * 2 ^ ulpExponent y := by
            rw [Int.cast_pow, Int.cast_ofNat, two_pow_mul_two_zpow, add_comm, Nat.cast_ofNat]
        _ ≤ roundBinary y := by
            refine mul_le_mul_of_nonneg_right ?_ (two_zpow_pos _).le
            exact_mod_cast le_roundEven_of_le
              (by push_cast; exact le_div_two_zpow_ulpExponent hy hNormal)
    exact hxTop.trans hyBottom
  · unfold roundBinary
    rw [hEq]
    refine mul_le_mul_of_nonneg_right ?_ (two_zpow_pos _).le
    exact_mod_cast roundEven_mono (div_le_div_of_nonneg_right h (two_zpow_pos _).le)

/- Rounding fixes the binary64 numbers. -/
theorem roundBinary_of_float
    {m : ℕ}
    {k : ℤ}
    (hm : 0 < m)
    (hBits : m < 2 ^ 53)
    (hk : -1074 ≤ k) :
    roundBinary (m * 2 ^ k) = m * 2 ^ k := by
  have hx : (0 : ℚ) < m * 2 ^ k := mul_pos (by exact_mod_cast hm) (two_zpow_pos k)
  have hUlp : ulpExponent (m * 2 ^ k) ≤ k := by
    have hLog : Int.log 2 ((m : ℚ) * 2 ^ k) < k + 53 := by
      refine (Int.lt_zpow_iff_log_lt (b := 2) one_lt_two hx).mp ?_
      rw [Nat.cast_ofNat, zpow_add₀ two_ne_zero, mul_comm]
      exact mul_lt_mul_of_pos_left (by exact_mod_cast hBits) (two_zpow_pos k)
    simp only [ulpExponent]; omega
  have hScaled : (m : ℚ) * 2 ^ k / 2 ^ ulpExponent (m * 2 ^ k) =
      ((m * 2 ^ (k - ulpExponent (m * 2 ^ k)).toNat : ℕ) : ℤ) := by
    push_cast
    rw [← zpow_natCast, Int.toNat_of_nonneg (by omega), zpow_sub₀ two_ne_zero]
    field_simp
  rw [roundBinary, hScaled, roundEven_intCast, ← hScaled,
    div_mul_cancel₀ _ (two_zpow_pos _).ne']

@[simp] theorem roundBinary_zero :
    roundBinary 0 = 0 := by
  simp [roundBinary, roundEven]

end PyFloat

end MusicLabel

------------------------------------------------------------
-- Rounding in Bits
------------------------------------------------------------

namespace MusicLabel

namespace PyFloat

/- A sign, an exponent field below `2047` and a trailing significand decode as packed. -/
theorem kind_pack
    (negative : Bool)
    {field fraction : ℕ}
    (hField : field < 2047)
    (hFraction : fraction < 2 ^ 52) :
    (pack negative field fraction).kind =
      if field = 0 then .finite negative fraction (-1074)
      else .finite negative (2 ^ 52 + fraction) ((field : ℤ) - 1075) := by
  have hSign : (pack negative field fraction).signBit = negative := by
    cases negative <;> simp [pack, ofBits, signBit] <;> omega
  have hField' : (pack negative field fraction).field = field := by
    cases negative <;> simp [pack, ofBits, PyFloat.field] <;> omega
  have hFraction' : (pack negative field fraction).fraction = fraction := by
    cases negative <;> simp [pack, ofBits, PyFloat.fraction] <;> omega
  simp only [kind, hSign, hField', hFraction', show field ≠ 2047 by omega, ↓reduceIte]

@[simp] theorem kind_infinity
    (negative : Bool) :
    (infinity negative).kind = .infinity negative := by
  cases negative <;> decide

/-
  `k` is the float of sign `negative` and magnitude `r`: finite with
  value `r` below `2^1024`, the infinity from `2^1024` on.
-/
def Encodes (negative : Bool) (r : ℚ) : Kind → Prop
  | .finite s m e => s = negative ∧ (m : ℚ) * 2 ^ e = r ∧ r < 2 ^ 1024
  | .infinity s => s = negative ∧ 2 ^ 1024 ≤ r
  | .nan => False

/-
  The last steps of `ofRatio`: a significand rounded at exponent `e`
  (at most `2^53`, and at least `2^52` above the subnormal exponent)
  carries into the next binade, overflows, or packs as a subnormal or a
  normal float, and each encodes `sig * 2^e`.
-/
theorem encodes_of_rounded
    (negative : Bool)
    {sig : ℕ}
    {e : ℤ}
    (hSig : sig ≤ 2 ^ 53)
    (he : -1074 ≤ e)
    (hNormal : e = -1074 ∨ 2 ^ 52 ≤ sig) :
    Encodes negative (sig * 2 ^ e)
      (if 971 < (if sig = 2 ^ 53 then e + 1 else e) then infinity negative
      else if (if sig = 2 ^ 53 then 2 ^ 52 else sig) < 2 ^ 52 then
        pack negative 0 (if sig = 2 ^ 53 then 2 ^ 52 else sig)
      else pack negative ((if sig = 2 ^ 53 then e + 1 else e) + 1075).toNat
        ((if sig = 2 ^ 53 then 2 ^ 52 else sig) - 2 ^ 52)).kind := by
  have hBelow : e ≤ 971 → sig < 2 ^ 53 → (sig : ℚ) * 2 ^ e < 2 ^ 1024 := fun hExp hLt =>
    calc (sig : ℚ) * 2 ^ e < 2 ^ 53 * 2 ^ e :=
          mul_lt_mul_of_pos_right (by exact_mod_cast hLt) (two_zpow_pos e)
      _ = 2 ^ ((53 : ℤ) + e) := two_pow_mul_two_zpow 53 e
      _ ≤ 2 ^ (1024 : ℤ) := zpow_le_zpow_right₀ one_le_two (by omega)
      _ = 2 ^ 1024 := zpow_natCast 2 1024
  by_cases hCarry : sig = 2 ^ 53
  · have hTop : ((2 ^ 53 : ℕ) : ℚ) * 2 ^ e = 2 ^ 52 * 2 ^ (e + 1) := by
      rw [zpow_add₀ two_ne_zero]; push_cast; ring
    simp only [hCarry, ↓reduceIte, lt_self_iff_false, Nat.sub_self]
    split_ifs with hOver
    · rw [kind_infinity]
      refine ⟨rfl, ?_⟩
      rw [hTop, two_pow_mul_two_zpow, ← zpow_natCast]
      exact zpow_le_zpow_right₀ one_le_two (by omega)
    · rw [kind_pack negative (by omega) (by norm_num), if_neg (by omega)]
      refine ⟨rfl, ?_, ?_⟩
      · rw [hTop, Nat.add_zero, Int.toNat_of_nonneg (by omega)]
        push_cast
        ring_nf
      · rw [hTop, two_pow_mul_two_zpow, ← zpow_natCast]
        exact zpow_lt_zpow_right₀ one_lt_two (by omega)
  · have hLt : sig < 2 ^ 53 := by omega
    simp only [hCarry, ↓reduceIte]
    split_ifs with hOver hSubnormal
    · have hBig : 2 ^ 52 ≤ sig := hNormal.resolve_left (by omega)
      rw [kind_infinity]
      refine ⟨rfl, ?_⟩
      calc (2 : ℚ) ^ 1024 = 2 ^ 52 * 2 ^ (972 : ℤ) := by
            rw [two_pow_mul_two_zpow, ← zpow_natCast]; norm_num
        _ ≤ 2 ^ 52 * 2 ^ e :=
            mul_le_mul_of_nonneg_left (zpow_le_zpow_right₀ one_le_two (by omega))
              (by positivity)
        _ ≤ sig * 2 ^ e := mul_le_mul_of_nonneg_right (by exact_mod_cast hBig) (two_zpow_pos e).le
    · have hSub : e = -1074 := hNormal.resolve_right (by omega)
      subst hSub
      rw [kind_pack negative (by omega) hSubnormal, if_pos rfl]
      exact ⟨rfl, rfl, hBelow (by omega) hLt⟩
    · rw [kind_pack negative (by omega) (by omega), if_neg (by omega)]
      refine ⟨rfl, ?_, hBelow (by omega) hLt⟩
      rw [Nat.add_sub_cancel' (by omega), Int.toNat_of_nonneg (by omega)]
      ring_nf

/- `ofRatio` is the binary64 rounding of `num / den`, overflowing to an infinity. -/
theorem kind_ofRatio
    (negative : Bool)
    {num den : ℕ}
    (hNum : 0 < num)
    (hDen : 0 < den) :
    Encodes negative (roundBinary (num / den)) (ofRatio negative num den).kind := by
  set x : ℚ := num / den with hxDef
  have hx : 0 < x := by positivity
  have hExp : max (floorLog2 num den - 52) (-1074) = ulpExponent x := by
    rw [floorLog2_eq_log hNum hDen]; rfl
  unfold ofRatio
  simp only [hNum.ne', ↓reduceIte, hExp]
  generalize hE : ulpExponent x = e
  have he : -1074 ≤ e := hE ▸ le_max_right _ _
  -- `num / den` scaled to the last significand bit, as a ratio of naturals
  generalize hN : (if 0 ≤ e then num else num * 2 ^ (-e).toNat) = sN
  generalize hD : (if 0 ≤ e then den * 2 ^ e.toNat else den) = sD
  have hsD : 0 < sD := by
    rw [← hD]; split_ifs <;> positivity
  have hRatio : (sN : ℚ) / sD = x / 2 ^ e := by
    rw [← hN, ← hD, hxDef]
    split_ifs with hSign
    · rw [← Int.toNat_of_nonneg hSign, zpow_natCast, Int.toNat_of_nonneg hSign]
      push_cast; rw [div_div]
    · have hPow : (2 : ℚ) ^ e = ((2 ^ (-e).toNat : ℕ) : ℚ)⁻¹ := by
        rw [Nat.cast_pow, Nat.cast_ofNat, ← zpow_natCast, ← zpow_neg,
          Int.toNat_of_nonneg (by omega), neg_neg]
      rw [hPow, div_inv_eq_mul]
      push_cast; ring
  -- the rounded significand
  generalize hSigDef : (if sD < 2 * (sN % sD) ∨ (2 * (sN % sD) = sD ∧ sN / sD % 2 = 1)
    then sN / sD + 1 else sN / sD) = sig
  have hRound : roundEven (x / 2 ^ e) = sig := by
    rw [← hRatio, roundEven_natCast_div sN hsD, hSigDef]
  have hValue : roundBinary x = sig * 2 ^ e := by
    rw [roundBinary, hE, hRound, Int.cast_natCast]
  have hSig : sig ≤ 2 ^ 53 := by
    have := roundEven_le_of_le (n := 2 ^ 53) (x := x / 2 ^ e)
      (by rw [← hE]; exact_mod_cast (div_two_zpow_ulpExponent_lt x).le)
    omega
  have hNormal : e = -1074 ∨ 2 ^ 52 ≤ sig := by
    by_cases hSub : e = -1074
    · exact .inl hSub
    · have hLog : ulpExponent x = Int.log 2 x - 52 := by
        simp only [ulpExponent] at hE ⊢; omega
      have := le_roundEven_of_le (n := 2 ^ 52) (x := x / 2 ^ e)
        (by rw [← hE]; exact_mod_cast le_div_two_zpow_ulpExponent hx hLog)
      exact .inr (by omega)
  rw [hValue]
  exact encodes_of_rounded negative hSig he hNormal

end PyFloat

end MusicLabel

------------------------------------------------------------
-- Arithmetic on Denoted Numbers
------------------------------------------------------------

namespace MusicLabel

namespace PyFloat

/- `ofDyadic` is the binary64 rounding of `significand * 2^exponent`. -/
theorem kind_ofDyadic
    (negative : Bool)
    {significand : ℕ}
    (exponent : ℤ)
    (hSignificand : 0 < significand) :
    Encodes negative (roundBinary (significand * 2 ^ exponent))
      (ofDyadic negative significand exponent).kind := by
  unfold ofDyadic
  split_ifs with hSign
  · have h := @kind_ofRatio negative (significand * 2 ^ exponent.toNat) 1 (by positivity) one_pos
    rwa [Nat.cast_one, div_one, Nat.cast_mul, Nat.cast_pow, Nat.cast_ofNat, ← zpow_natCast,
      Int.toNat_of_nonneg hSign] at h
  · have h := @kind_ofRatio negative significand (2 ^ (-exponent).toNat) hSignificand
      (by positivity)
    rwa [Nat.cast_pow, Nat.cast_ofNat, ← zpow_natCast, Int.toNat_of_nonneg (by omega),
      div_eq_mul_inv, ← zpow_neg, neg_neg] at h

/- The rational a finite float denotes; infinities and NaNs denote `0`. -/
def Kind.value : Kind → ℚ
  | .finite negative significand exponent =>
      (Decimal.signed negative significand : ℚ) * 2 ^ exponent
  | _ => 0

/- A finite value is its integer at a lower exponent, scaled back. -/
theorem value_eq_scaled
    {negative : Bool}
    {significand : ℕ}
    {exponent base : ℤ}
    (h : base ≤ exponent) :
    Kind.value (.finite negative significand exponent) =
      (scaled negative significand exponent base : ℚ) * 2 ^ base := by
  have hPow : (2 : ℚ) ^ exponent = 2 ^ (exponent - base).toNat * 2 ^ base := by
    rw [← zpow_natCast, Int.toNat_of_nonneg (by omega), ← zpow_add₀ two_ne_zero,
      sub_add_cancel]
  rw [Kind.value, scaled, Decimal.signed_mul, hPow]
  push_cast
  ring

/-
  `x - y` on finite floats is the exact difference rounded once, with
  the sign of the difference (of the operands' signs for a zero).
-/
theorem kind_sub
    {x y : PyFloat}
    {s t : Bool}
    {m n : ℕ}
    {e f : ℤ}
    (hx : x.kind = .finite s m e)
    (hy : y.kind = .finite t n f) :
    Encodes
      (if Kind.value (.finite s m e) - Kind.value (.finite t n f) = 0 then s && !t
        else decide (Kind.value (.finite s m e) - Kind.value (.finite t n f) < 0))
      (roundBinary |Kind.value (.finite s m e) - Kind.value (.finite t n f)|)
      (sub x y).kind := by
  have hGap : Kind.value (.finite s m e) - Kind.value (.finite t n f) =
      ((scaled s m e (min e f) - scaled t n f (min e f) : ℤ) : ℚ) * 2 ^ min e f := by
    rw [value_eq_scaled (min_le_left e f), value_eq_scaled (min_le_right e f)]
    push_cast
    ring
  have hTwo := two_zpow_pos (min e f)
  rw [hGap]
  simp only [sub, hx, hy]
  generalize scaled s m e (min e f) - scaled t n f (min e f) = difference
  by_cases hZero : difference = 0
  · subst hZero
    simp only [Int.cast_zero, zero_mul, ↓reduceIte, abs_zero, roundBinary_zero, zero]
    rw [kind_pack _ (by norm_num) (by norm_num), if_pos rfl]
    exact ⟨rfl, by simp, by norm_num⟩
  · have hNeg : (difference : ℚ) * 2 ^ min e f < 0 ↔ difference < 0 := by
      rw [← zero_mul (2 ^ min e f), mul_lt_mul_right hTwo]
      exact_mod_cast Iff.rfl
    have hAbs : |(difference : ℚ) * 2 ^ min e f| = (difference.natAbs : ℚ) * 2 ^ min e f := by
      rw [abs_mul, abs_of_pos hTwo, Nat.cast_natAbs, Int.cast_abs]
    simp only [hZero, ↓reduceIte, mul_eq_zero, Int.cast_eq_zero, hTwo.ne', or_false, hNeg, hAbs]
    exact kind_ofDyadic _ _ (Int.natAbs_pos.mpr hZero)

/-
  An integer `total` at the binary exponent `base`, as `add` turns it
  into a float: an exact zero of sign `zeroSign`, or the number rounded
  once with the sign of `total`.
-/
theorem kind_scaledTotal
    (zeroSign : Bool)
    (total base : ℤ) :
    Encodes (if (total : ℚ) * 2 ^ base = 0 then zeroSign else decide ((total : ℚ) * 2 ^ base < 0))
      (roundBinary |(total : ℚ) * 2 ^ base|)
      (if total = 0 then zero zeroSign else ofDyadic (decide (total < 0)) total.natAbs base).kind := by
  have hTwo := two_zpow_pos base
  by_cases hZero : total = 0
  · subst hZero
    simp only [Int.cast_zero, zero_mul, ↓reduceIte, abs_zero, roundBinary_zero, zero]
    rw [kind_pack _ (by norm_num) (by norm_num), if_pos rfl]
    exact ⟨rfl, by simp, by norm_num⟩
  · have hNeg : (total : ℚ) * 2 ^ base < 0 ↔ total < 0 := by
      rw [← zero_mul (2 ^ base), mul_lt_mul_right hTwo]
      exact_mod_cast Iff.rfl
    have hAbs : |(total : ℚ) * 2 ^ base| = (total.natAbs : ℚ) * 2 ^ base := by
      rw [abs_mul, abs_of_pos hTwo, Nat.cast_natAbs, Int.cast_abs]
    simp only [hZero, ↓reduceIte, mul_eq_zero, Int.cast_eq_zero, hTwo.ne', or_false, hNeg, hAbs]
    exact kind_ofDyadic _ _ (Int.natAbs_pos.mpr hZero)

/-
  `x + y` on finite floats is the exact sum rounded once, with the sign
  of the sum (`-0.0` for an exact zero only when both are `-0.0`).
-/
theorem kind_add
    {x y : PyFloat}
    {s t : Bool}
    {m n : ℕ}
    {e f : ℤ}
    (hx : x.kind = .finite s m e)
    (hy : y.kind = .finite t n f) :
    Encodes
      (if Kind.value (.finite s m e) + Kind.value (.finite t n f) = 0 then s && t
        else decide (Kind.value (.finite s m e) + Kind.value (.finite t n f) < 0))
      (roundBinary |Kind.value (.finite s m e) + Kind.value (.finite t n f)|)
      (add x y).kind := by
  have hSum : Kind.value (.finite s m e) + Kind.value (.finite t n f) =
      ((scaled s m e (min e f) + scaled t n f (min e f) : ℤ) : ℚ) * 2 ^ min e f := by
    rw [value_eq_scaled (min_le_left e f), value_eq_scaled (min_le_right e f)]
    push_cast
    ring
  rw [hSum]
  simp only [add, hx, hy]
  exact kind_scaledTotal (s && t) _ _

/- `x / n` on a finite float is the exact quotient rounded once, with the sign of `x`. -/
theorem kind_divNat
    {x : PyFloat}
    {s : Bool}
    {m : ℕ}
    {e : ℤ}
    (hx : x.kind = .finite s m e)
    (hm : 0 < m)
    {n : ℕ}
    (hn : 0 < n) :
    Encodes s (roundBinary ((m : ℚ) * 2 ^ e / n)) (divNat x n).kind := by
  simp only [divNat, hx]
  split_ifs with hSign
  · have h := @kind_ofRatio s (m * 2 ^ e.toNat) n (by positivity) hn
    rwa [Nat.cast_mul, Nat.cast_pow, Nat.cast_ofNat, ← zpow_natCast,
      Int.toNat_of_nonneg hSign] at h
  · have h := @kind_ofRatio s m (n * 2 ^ (-e).toNat) hm (by positivity)
    rwa [Nat.cast_mul, Nat.cast_pow, Nat.cast_ofNat, ← zpow_natCast, Int.toNat_of_nonneg (by omega),
      zpow_neg, div_mul_eq_div_div, div_inv_eq_mul, div_mul_eq_mul_div] at h

/- Rounding keeps a number non-negative. -/
theorem roundBinary_nonneg
    {x : ℚ}
    (hx : 0 ≤ x) :
    0 ≤ roundBinary x := by
  have hTwo := two_zpow_pos (ulpExponent x)
  have hRound : (0 : ℤ) ≤ roundEven (x / 2 ^ ulpExponent x) :=
    le_roundEven_of_le (by rw [Int.cast_zero]; exact div_nonneg hx hTwo.le)
  unfold roundBinary
  exact mul_nonneg (by exact_mod_cast hRound) hTwo.le

/- Every integer up to `2^53` is a float. -/
theorem roundBinary_natCast
    {j : ℕ}
    (hj : 0 < j)
    (hBits : j ≤ 2 ^ 53) :
    roundBinary j = j := by
  rcases hBits.lt_or_eq with hLt | rfl
  · have h := @roundBinary_of_float j 0 hj hLt (by norm_num)
    rwa [zpow_zero, mul_one] at h
  · have h := @roundBinary_of_float (2 ^ 52) 1 (by positivity) (by norm_num) (by norm_num)
    rw [zpow_one] at h
    rw [show ((2 ^ 53 : ℕ) : ℚ) = ((2 ^ 52 : ℕ) : ℚ) * 2 by norm_num, h]

/- `abs(x)` keeps the magnitude a float encodes and makes its sign positive. -/
theorem encodes_abs
    {x : PyFloat}
    {negative : Bool}
    {r : ℚ}
    (h : Encodes negative r x.kind) :
    Encodes false r (abs x).kind := by
  have hWord := x.isWord
  have hBits : (abs x).bits = x.bits % 2 ^ 63 := by
    simp only [abs, ofBits]; omega
  have hSign : (abs x).signBit = false := by
    simp [signBit, hBits]
  have hField : (abs x).field = x.field := by
    simp only [PyFloat.field, hBits]; omega
  have hFraction : (abs x).fraction = x.fraction := by
    simp only [PyFloat.fraction, hBits]; omega
  unfold kind at h ⊢
  rw [hSign, hField, hFraction]
  split_ifs at h ⊢ <;> first | exact h | exact ⟨rfl, h.2⟩

/- `Float.__lt__`'s order on finite floats compares the numbers they denote. -/
theorem order_finite
    (s : Bool) (m : ℕ) (e : ℤ)
    (t : Bool) (n : ℕ) (f : ℤ) :
    order (.finite s m e) (.finite t n f) =
      compare (Kind.value (.finite s m e)) (Kind.value (.finite t n f)) := by
  rw [value_eq_scaled (min_le_left e f), value_eq_scaled (min_le_right e f),
    Decimal.compare_cast_mul (two_zpow_pos _)]
  rfl

/- `x < y` for a finite `x` and a `y` of positive sign and magnitude `r`. -/
theorem lt_of_encodes
    {x y : PyFloat}
    {s : Bool}
    {m : ℕ}
    {e : ℤ}
    {r : ℚ}
    (hx : x.kind = .finite s m e)
    (hBound : Kind.value (.finite s m e) < 2 ^ 1024)
    (hy : Encodes false r y.kind) :
    lt x y = decide (Kind.value (.finite s m e) < r) := by
  cases hKind : y.kind with
  | finite t n f =>
      rw [hKind] at hy
      obtain ⟨rfl, hValue, -⟩ := hy
      have hValue' : Kind.value (.finite false n f) = r := by simpa [Kind.value] using hValue
      simp [lt, isNaN, hx, hKind, order_finite, hValue', compare_lt_iff_lt]
  | infinity t =>
      rw [hKind] at hy
      obtain ⟨rfl, hTop⟩ := hy
      simp [lt, isNaN, hx, hKind, order, lt_of_lt_of_le hBound hTop]
  | nan =>
      rw [hKind] at hy
      exact hy.elim

end PyFloat

end MusicLabel
