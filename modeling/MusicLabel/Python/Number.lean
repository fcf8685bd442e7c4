import MusicLabel.Python.DateText
import MusicLabel.Python.FloatValue

/-
  The arithmetic of Python's `int` and `float` that the analytics agent
  goes through: `float(n)`, true division of integers, `*` and `/` on
  floats, `round(x, n)`, `sum` of floats, and the format specs `,` and
  `,.2f`.

  Every operation rounds its exact result once, to the nearest float,
  ties to an even significand (`PyFloat.ofRatio`). An integer too large
  for a float raises `OverflowError` where CPython converts it, and
  `round` and `format` round the exact binary value half to even at
  their decimal place, as `_Py_dg_dtoa` in mode 3 does.

  `format(n, ",")` only inserts commas, one before each group of three
  digits counted from the right (`formatGrouped_shape`): taken out
  again, they leave `str(n)` (`filter_formatGrouped`).

  A float is non-negative when it is `+0.0`, a positive number or
  `+inf`. Every operation here keeps non-negative operands
  non-negative (a product only of finite ones, since `0 * inf` is a
  NaN), and no non-negative float is below a negative one.

  Main declarations:
    * `PyFloat.ofInt`, `PyFloat.trueDiv`, `PyFloat.mul`, `PyFloat.div`
    * `PyFloat.roundDigits`, `PyNum`, `PyFloat.sum`
    * `formatGrouped`, `PyFloat.formatGroupedFixed2`
    * `PyFloat.Kind.NonNeg`, `PyNum.NonNeg`
-/

------------------------------------------------------------
-- Conversions and Operations
------------------------------------------------------------

namespace MusicLabel

namespace PyFloat

/- The float of a natural number, such as `100.0` or `5.0`, exact below `2^53`. -/
def ofNat (n : Nat) : PyFloat :=
  ofRatio false n 1

/-
  `float(n)`: `PyLong_AsDouble`, correctly rounded, raising
  `OverflowError` when the result would be an infinity.
-/
def ofInt (n : Int) : Except PyError PyFloat :=
  let x := ofRatio (decide (n < 0)) n.natAbs 1
  match x.kind with
  | .infinity _ => .error .overflowError
  | _ => .ok x

/-
  `a / b` on integers, for `b > 0`: `long_true_divide`, the exact
  quotient correctly rounded, raising `OverflowError` when it would be
  an infinity.
-/
def trueDiv (a : Int) (b : Nat) : Except PyError PyFloat :=
  let x := ofRatio (decide (a < 0)) a.natAbs b
  match x.kind with
  | .infinity _ => .error .overflowError
  | _ => .ok x

/-
  `x * y`: the exact product, correctly rounded; a zero times an
  infinity is a NaN.
-/
def mul (x y : PyFloat) : PyFloat :=
  match x.kind, y.kind with
  | .nan, _ => nan
  | _, .nan => nan
  | .infinity s, .infinity t => infinity (s != t)
  | .infinity s, .finite t n _ => if n = 0 then nan else infinity (s != t)
  | .finite s m _, .infinity t => if m = 0 then nan else infinity (s != t)
  | .finite s m e, .finite t n f => ofDyadic (s != t) (m * n) (e + f)

/-
  `x / y` for a divisor that is not a zero (there Python raises
  `ZeroDivisionError`; the modelled code never divides by one): the
  exact quotient, correctly rounded.
-/
def div (x y : PyFloat) : PyFloat :=
  match x.kind, y.kind with
  | .nan, _ => nan
  | _, .nan => nan
  | .infinity _, .infinity _ => nan
  | .infinity s, .finite t _ _ => infinity (s != t)
  | .finite s _ _, .infinity t => zero (s != t)
  | .finite s m e, .finite t n f =>
      if e ≤ f then ofRatio (s != t) m (n * 2 ^ (f - e).toNat)
      else ofRatio (s != t) (m * 2 ^ (e - f).toNat) n

/- `x * n` for an integer `n`: the integer converted first. -/
def mulInt (x : PyFloat) (n : Int) : Except PyError PyFloat :=
  (ofInt n).map (mul x)

/- `n + x` for an integer `n`: the integer converted first. -/
def intAdd (n : Int) (x : PyFloat) : Except PyError PyFloat :=
  (ofInt n).map (add · x)

/- `x / n` for a positive integer `n`: the integer converted first. -/
def divInt (x : PyFloat) (n : Int) : Except PyError PyFloat :=
  (ofInt n).map (div x)

/- Round half to even of `num / den`. -/
def roundHalfEven (num den : Nat) : Nat :=
  let q := num / den
  let r := num % den
  if den < 2 * r ∨ (2 * r = den ∧ q % 2 = 1) then q + 1 else q

/-
  The exact value of a finite float times `10^ndigits`, as a fraction
  `num / den`.
-/
def scaledDecimal (significand : Nat) (exponent : Int) (ndigits : Nat) : Nat × Nat :=
  if 0 ≤ exponent then (significand * 2 ^ exponent.toNat * 10 ^ ndigits, 1)
  else (significand * 10 ^ ndigits, 2 ^ (-exponent).toNat)

/-
  `round(x, ndigits)`: `double_round`, the exact value rounded half to
  even at `ndigits` decimals and read back to the nearest float, with
  its sign; NaNs and infinities round to themselves, and so does every
  float when `ndigits` exceeds `323`.
-/
def roundDigits (x : PyFloat) (ndigits : Nat) : PyFloat :=
  match x.kind with
  | .finite s m e =>
      if 323 < ndigits then x
      else
        let (num, den) := scaledDecimal m e ndigits
        ofRatio s (roundHalfEven num den) (10 ^ ndigits)
  | _ => x

end PyFloat

/- A Python number that is an `int` or a `float`. -/
inductive PyNum
  | int (n : Int)
  | float (x : PyFloat)
  deriving DecidableEq

namespace PyNum

/- `round(v, ndigits)`: an `int` rounds to itself. -/
def round (v : PyNum) (ndigits : Nat) : PyNum :=
  match v with
  | int n => int n
  | float x => float (x.roundDigits ndigits)

end PyNum

namespace PyFloat

/-
  `sum(xs)` of floats as CPython 3.11 adds them: the `int` `0` when
  there are none, else `0 + x₀ + x₁ + …`, each sum rounded, the first
  addition turning `0` into `0.0` (3.12 and later compensate the
  rounding).
-/
def sum : List PyFloat → PyNum
  | [] => .int 0
  | x :: xs => .float (xs.foldl add (add (zero false) x))

end PyFloat

namespace PyNum

/- `v / n` for a positive integer `n`: true division of an `int`, or a `float` divided. -/
def divInt (v : PyNum) (n : Int) : Except PyError PyFloat :=
  match v with
  | int m => PyFloat.trueDiv m n.toNat
  | float x => x.divInt n

end PyNum

end MusicLabel

------------------------------------------------------------
-- Formats
------------------------------------------------------------

namespace MusicLabel

/- Reversed digits with a comma after every third one that more digits follow. -/
def commaEveryThird : List Char → List Char
  | a :: b :: c :: d :: rest => a :: b :: c :: ',' :: commaEveryThird (d :: rest)
  | digits => digits

/- Digits grouped by threes from the right with commas. -/
def groupThousands (digits : List Char) : List Char :=
  (commaEveryThird digits.reverse).reverse

/- `format(n, ",")` on an integer. -/
def formatGrouped (n : Int) : String :=
  (if n < 0 then "-" else "") ++ String.mk (groupThousands (Nat.repr n.natAbs).data)

/- The commas are all that `commaEveryThird` adds. -/
theorem filter_commaEveryThird
    (ds : List Char) :
    (commaEveryThird ds).filter (· ≠ ',') = ds.filter (· ≠ ',') := by
  induction ds using commaEveryThird.induct with
  | case1 a b c d rest ih =>
      simp only [commaEveryThird, List.filter_cons, ih, ne_eq, not_true_eq_false, decide_False,
        Bool.false_eq_true, ↓reduceIte]
  | case2 digits hShort =>
      unfold commaEveryThird
      split
      · next a b c d rest => exact absurd rfl (hShort a b c d rest)
      · rfl

theorem comma_not_mem_repr
    (k : ℕ) :
    ',' ∉ (Nat.repr k).data := by
  have hDigit : ∀ d < 10, Nat.digitChar d ≠ ',' := by decide
  rw [Text.repr_data]
  intro h
  obtain ⟨d, hd, hEq⟩ := List.mem_map.mp h
  exact hDigit d (Text.reprDigits_lt hd) hEq

/- `commaEveryThird` puts a comma after each full group of three that more characters follow. -/
theorem commaEveryThird_shape :
    (ds : List Char) → ds ≠ [] →
      ∃ (groups : List (List Char)) (last : List Char),
        commaEveryThird ds = (groups.map (· ++ [','])).flatten ++ last ∧
        groups.flatten ++ last = ds ∧ (∀ g ∈ groups, g.length = 3) ∧
        1 ≤ last.length ∧ last.length ≤ 3
  | a :: b :: c :: d :: rest, _ => by
      obtain ⟨groups, last, hComma, hFlat, hThree, hLo, hHi⟩ :=
        commaEveryThird_shape (d :: rest) (List.cons_ne_nil d rest)
      refine ⟨[a, b, c] :: groups, last, ?_, ?_, ?_, hLo, hHi⟩
      · rw [commaEveryThird, hComma]
        simp
      · simp [hFlat]
      · intro g hg
        rcases List.mem_cons.mp hg with rfl | hg
        · rfl
        · exact hThree g hg
  | [a], _ => ⟨[], [a], rfl, rfl, by simp, by simp, by simp⟩
  | [a, b], _ => ⟨[], [a, b], rfl, rfl, by simp, by simp, by simp⟩
  | [a, b, c], _ => ⟨[], [a, b, c], rfl, rfl, by simp, by simp, by simp⟩

/- Digits grouped by threes from the right: a first group of one to three, then groups of three. -/
theorem groupThousands_shape
    {ds : List Char}
    (hNonempty : ds ≠ []) :
    ∃ (first : List Char) (groups : List (List Char)),
      groupThousands ds = first ++ (groups.map (',' :: ·)).flatten ∧
      first ++ groups.flatten = ds ∧ 1 ≤ first.length ∧ first.length ≤ 3 ∧
      ∀ g ∈ groups, g.length = 3 := by
  obtain ⟨groups, last, hComma, hFlat, hThree, hLo, hHi⟩ :=
    commaEveryThird_shape ds.reverse (by simpa using hNonempty)
  refine ⟨last.reverse, (groups.map List.reverse).reverse, ?_, ?_, by simpa using hLo,
    by simpa using hHi, ?_⟩
  · rw [groupThousands, hComma, List.reverse_append, List.reverse_flatten]
    simp [Function.comp_def]
  · rw [← List.reverse_reverse ds, ← hFlat, List.reverse_append, List.reverse_flatten]
  · intro g hg
    simp only [List.mem_reverse, List.mem_map] at hg
    obtain ⟨g', hg', rfl⟩ := hg
    simpa using hThree g' hg'

/-
  `format(n, ",")`: a minus sign for a negative `n`, then the digits of
  `|n|`, one to three of them, then the rest in groups of three, each
  after a comma.
-/
theorem formatGrouped_shape
    (n : ℤ) :
    ∃ (first : List Char) (groups : List (List Char)),
      (formatGrouped n).data =
        (if n < 0 then ['-'] else []) ++ first ++ (groups.map (',' :: ·)).flatten ∧
      first ++ groups.flatten = (Nat.repr n.natAbs).data ∧ 1 ≤ first.length ∧
      first.length ≤ 3 ∧ ∀ g ∈ groups, g.length = 3 := by
  have hNonempty : (Nat.repr n.natAbs).data ≠ [] := by
    rw [Text.repr_data]
    simpa using Text.reprDigits_ne_nil n.natAbs
  obtain ⟨first, groups, hGroup, hRest⟩ := groupThousands_shape hNonempty
  refine ⟨first, groups, ?_, hRest⟩
  rw [List.append_assoc, ← hGroup, formatGrouped]
  split <;> rfl

/- `format(n, ",")` with its commas taken out is `str(n)`. -/
theorem filter_formatGrouped
    (n : ℤ) :
    (formatGrouped n).data.filter (· ≠ ',') = (toString n).data := by
  have hDigits : ∀ k : ℕ,
      (groupThousands (Nat.repr k).data).filter (· ≠ ',') = (Nat.repr k).data := by
    intro k
    rw [groupThousands, List.filter_reverse, filter_commaEveryThird, List.filter_reverse,
      List.reverse_reverse, List.filter_eq_self.mpr]
    intro c hc
    exact decide_eq_true fun h => comma_not_mem_repr k (h ▸ hc)
  cases n with
  | ofNat k =>
      have hData : (formatGrouped (Int.ofNat k)).data = groupThousands (Nat.repr k).data := by
        rw [formatGrouped,
          if_neg (show ¬ Int.ofNat k < 0 from Int.not_lt.mpr (Int.ofNat_nonneg k))]
        rfl
      rw [hData, hDigits]
      rfl
  | negSucc k =>
      have hData : (formatGrouped (Int.negSucc k)).data =
          '-' :: groupThousands (Nat.repr (k + 1)).data := by
        rw [formatGrouped, if_pos (Int.negSucc_lt_zero k)]
        rfl
      rw [hData, List.filter_cons_of_pos (by decide), hDigits]
      rfl

namespace PyFloat

/-
  `format(x, ",.2f")`: the exact value rounded half to even at two
  decimals, its integer part grouped with commas.
-/
def formatGroupedFixed2 (x : PyFloat) : String :=
  match x.kind with
  | .nan => "nan"
  | .infinity s => if s then "-inf" else "inf"
  | .finite s m e =>
      let (num, den) := scaledDecimal m e 2
      let cents := roundHalfEven num den
      (if s then "-" else "") ++ String.mk (groupThousands (Nat.repr (cents / 100)).data) ++ "." ++
        PyDate.zeroPadded 2 (cents % 100)

end PyFloat

end MusicLabel

------------------------------------------------------------
-- Signs
------------------------------------------------------------

namespace MusicLabel

namespace PyFloat

/- `+0.0`, a positive number or `+inf`: the sign bit clear, and not a NaN. -/
def Kind.NonNeg : Kind → Prop
  | .finite negative _ _ => negative = false
  | .infinity negative => negative = false
  | .nan => False

theorem kind_zero
    (negative : Bool) :
    (zero negative).kind = .finite negative 0 (-1074) := by
  rw [zero, kind_pack negative (by omega) (by norm_num), if_pos rfl]

theorem nonNeg_zero :
    (zero false).kind.NonNeg := by
  rw [kind_zero]
  rfl

theorem nonNeg_infinity :
    (infinity false).kind.NonNeg := by
  rw [kind_infinity]
  rfl

/- Whatever float encodes a positive-signed magnitude is non-negative. -/
theorem nonNeg_of_encodes
    {r : ℚ}
    {k : Kind}
    (h : Encodes false r k) :
    k.NonNeg := by
  cases k with
  | finite s m e => exact h.1
  | infinity s => exact h.1
  | nan => exact h.elim

theorem nonNeg_ofRatio
    (num : ℕ)
    {den : ℕ}
    (hDen : 0 < den) :
    (ofRatio false num den).kind.NonNeg := by
  rcases Nat.eq_zero_or_pos num with rfl | hNum
  · rw [ofRatio, if_pos rfl]
    exact nonNeg_zero
  · exact nonNeg_of_encodes (kind_ofRatio false hNum hDen)

theorem nonNeg_ofNat
    (n : ℕ) :
    (ofNat n).kind.NonNeg :=
  nonNeg_ofRatio n one_pos

theorem nonNeg_ofDyadic
    (significand : ℕ)
    (exponent : ℤ) :
    (ofDyadic false significand exponent).kind.NonNeg := by
  unfold ofDyadic
  split <;> exact nonNeg_ofRatio _ (by positivity)

/- A positive integer converts to a finite float with a positive significand, or overflows. -/
theorem ofInt_ok
    {n : ℤ}
    {y : PyFloat}
    (hn : 0 < n)
    (h : ofInt n = .ok y) :
    ∃ k e, y.kind = .finite false k e ∧ 0 < k := by
  have hNeg : decide (n < 0) = false := decide_eq_false (by omega)
  have hEncodes := kind_ofRatio false (Int.natAbs_pos.mpr hn.ne') one_pos
  have hOne : (1 : ℚ) ≤ (n.natAbs : ℚ) / (1 : ℕ) := by
    rw [Nat.cast_one, div_one, Nat.one_le_cast]
    omega
  have hPos : 0 < roundBinary ((n.natAbs : ℚ) / (1 : ℕ)) :=
    calc (0 : ℚ) < 1 := one_pos
      _ = roundBinary ((1 : ℕ) : ℚ) := (roundBinary_natCast one_pos (by norm_num)).symm
      _ ≤ _ := roundBinary_mono one_pos (by exact_mod_cast hOne)
  simp only [ofInt, hNeg] at h
  split at h
  · cases h
  · next hKind =>
      cases h
      cases hY : (ofRatio false n.natAbs 1).kind with
      | finite s k e =>
          rw [hY] at hEncodes
          obtain ⟨rfl, hValue, -⟩ := hEncodes
          refine ⟨k, e, rfl, Nat.pos_of_ne_zero fun hk => ?_⟩
          rw [hk, Nat.cast_zero, zero_mul] at hValue
          exact hPos.ne hValue
      | infinity s => exact absurd hY (hKind s)
      | nan => rw [hY] at hEncodes; exact hEncodes.elim

/- A non-negative integer over a positive one is a finite non-negative float, or overflows. -/
theorem trueDiv_ok
    {a : ℤ}
    {b : ℕ}
    {x : PyFloat}
    (ha : 0 ≤ a)
    (hb : 0 < b)
    (h : trueDiv a b = .ok x) :
    ∃ m e, x.kind = .finite false m e := by
  have hNeg : decide (a < 0) = false := decide_eq_false (by omega)
  simp only [trueDiv, hNeg] at h
  split at h
  · cases h
  · next hKind =>
      cases h
      have hNonNeg := nonNeg_ofRatio a.natAbs hb
      cases hX : (ofRatio false a.natAbs b).kind with
      | finite s m e =>
          rw [hX] at hNonNeg
          exact ⟨m, e, hNonNeg ▸ rfl⟩
      | infinity s => exact absurd hX (hKind s)
      | nan => rw [hX] at hNonNeg; exact hNonNeg.elim

/- A non-negative float is finite with its sign bit clear, or `+inf`. -/
theorem nonNeg_cases
    {k : Kind}
    (h : k.NonNeg) :
    (∃ m e, k = .finite false m e) ∨ k = .infinity false := by
  cases k with
  | finite s m e => exact .inl ⟨m, e, by rw [show s = false from h]⟩
  | infinity s => exact .inr (by rw [show s = false from h])
  | nan => exact h.elim

theorem nonNeg_add
    {x y : PyFloat}
    (hx : x.kind.NonNeg)
    (hy : y.kind.NonNeg) :
    (add x y).kind.NonNeg := by
  unfold add
  rcases nonNeg_cases hx with ⟨m, e, hX⟩ | hX <;> rcases nonNeg_cases hy with ⟨n, f, hY⟩ | hY
  · simp only [hX, hY, scaled, Decimal.signed, Bool.false_eq_true, ↓reduceIte, Bool.and_self]
    split
    · exact nonNeg_zero
    · rw [decide_eq_false (by omega)]
      exact nonNeg_ofDyadic _ _
  all_goals simpa [hX, hY] using nonNeg_infinity

theorem nonNeg_mul
    {x y : PyFloat}
    {m n : ℕ}
    {e f : ℤ}
    (hx : x.kind = .finite false m e)
    (hy : y.kind = .finite false n f) :
    (mul x y).kind.NonNeg := by
  simp only [mul, hx, hy, bne_self_eq_false]
  exact nonNeg_ofDyadic _ _

theorem nonNeg_div
    {x y : PyFloat}
    {n : ℕ}
    {f : ℤ}
    (hx : x.kind.NonNeg)
    (hy : y.kind = .finite false n f)
    (hn : 0 < n) :
    (div x y).kind.NonNeg := by
  unfold div
  rcases nonNeg_cases hx with ⟨m, e, hX⟩ | hX <;> simp only [hX, hy, bne_self_eq_false]
  · split <;> exact nonNeg_ofRatio _ (by positivity)
  · exact nonNeg_infinity

theorem nonNeg_roundDigits
    {x : PyFloat}
    (hx : x.kind.NonNeg)
    (ndigits : ℕ) :
    (x.roundDigits ndigits).kind.NonNeg := by
  unfold roundDigits
  rcases nonNeg_cases hx with ⟨m, e, hX⟩ | hX <;> simp only [hX]
  · split
    · exact hx
    · exact nonNeg_ofRatio _ (by positivity)
  · rfl

theorem nonNeg_foldl_add
    {x : PyFloat}
    (hx : x.kind.NonNeg)
    (xs : List PyFloat)
    (hxs : ∀ y ∈ xs, y.kind.NonNeg) :
    (xs.foldl add x).kind.NonNeg := by
  induction xs generalizing x with
  | nil => exact hx
  | cons y xs ih =>
      exact ih (nonNeg_add hx (hxs y (List.mem_cons_self y xs)))
        fun z hz => hxs z (List.mem_cons_of_mem y hz)

/- No non-negative float is below a float of negative sign and non-zero significand. -/
theorem lt_eq_false_of_nonNeg
    {x y : PyFloat}
    {n : ℕ}
    {f : ℤ}
    (hx : x.kind.NonNeg)
    (hy : y.kind = .finite true n f)
    (hn : 0 < n) :
    lt x y = false := by
  have hOrder : order x.kind y.kind ≠ .lt := by
    rcases nonNeg_cases hx with ⟨m, e, hX⟩ | hX <;> rw [hX, hy]
    · have hPos : 0 < n * 2 ^ (f - min e f).toNat := Nat.mul_pos hn (Nat.two_pow_pos _)
      rw [order, Ne, compare_lt_iff_lt]
      simp only [scaled, Decimal.signed, Bool.false_eq_true, ↓reduceIte]
      omega
    · simp [order]
  simp [lt, hOrder]

end PyFloat

namespace PyNum

/- An `int` that is at least `0`, or a non-negative `float`. -/
def NonNeg : PyNum → Prop
  | int n => 0 ≤ n
  | float x => x.kind.NonNeg

/- `sum` of non-negative floats is non-negative. -/
theorem nonNeg_sum
    (xs : List PyFloat)
    (hxs : ∀ x ∈ xs, x.kind.NonNeg) :
    (PyFloat.sum xs).NonNeg := by
  cases xs with
  | nil => exact le_refl 0
  | cons x xs =>
      exact PyFloat.nonNeg_foldl_add
        (PyFloat.nonNeg_add PyFloat.nonNeg_zero (hxs x (List.mem_cons_self x xs))) xs
        fun y hy => hxs y (List.mem_cons_of_mem x hy)

/- A non-negative number over a positive integer is non-negative, when it does not overflow. -/
theorem nonNeg_divInt
    {v : PyNum}
    {n : ℤ}
    {x : PyFloat}
    (hv : v.NonNeg)
    (hn : 0 < n)
    (h : v.divInt n = .ok x) :
    x.kind.NonNeg := by
  cases v with
  | int m =>
      obtain ⟨k, e, hX⟩ := PyFloat.trueDiv_ok hv (by omega) h
      rw [hX]
      rfl
  | float y =>
      simp only [divInt, PyFloat.divInt] at h
      cases hY : PyFloat.ofInt n with
      | error err => rw [hY] at h; cases h
      | ok z =>
          rw [hY] at h
          cases h
          obtain ⟨k, e, hZ, hk⟩ := PyFloat.ofInt_ok hn hY
          exact PyFloat.nonNeg_div hv hZ hk

end PyNum

end MusicLabel
