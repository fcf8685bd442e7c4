import MusicLabel.Python.Value
import Mathlib.Tactic.IntervalCases
import Mathlib.Data.Int.Order.Basic

/-
  The calendar of Python's `datetime` module, as `check_expirations`
  uses it: `date` objects, `date + timedelta(days=k)`, `(a - b).days`
  and `a <= b`.

  A date is counted by its ordinal, `1` for 0001-01-01 in the proleptic
  Gregorian calendar. `_ymd2ord` adds the days before the year and the
  month, and `_ord2ymd` goes back by splitting the count into 400-,
  100-, 4- and 1-year cycles and estimating the month as
  `(n + 50) >> 5`, one too large at worst. Every definition follows the
  pure-Python `datetime.py` of Python 3.11, which the C module mirrors.

  Correctness is proven by:
    * `Datetime.monthDay_spec`: the month estimate and its correction
    * `Datetime.ord2ymd_spec`: `_ord2ymd` inverts `_ymd2ord`, for every integer
    * `PyDate.cmp_eq_compare_toOrdinal`: dates compare as their ordinals
    * `PyDate.fromOrdinal_eq_ok_iff`, `PyDate.fromOrdinal_toOrdinal`

  Main declarations:
    * `Datetime.ymd2ord`, `Datetime.ord2ymd`
    * `PyDate`, `PyDate.new`, `PyDate.toOrdinal`, `PyDate.fromOrdinal`
    * `PyDate.addDays`, `PyDate.sub`, `PyDate.le`
-/

------------------------------------------------------------
-- Days Before a Year and a Month
------------------------------------------------------------

namespace MusicLabel

namespace Datetime

/- `MINYEAR` and `MAXYEAR`. -/
def minYear : Int := 1
def maxYear : Int := 9999

/- `_MAXORDINAL`: the ordinal of `date.max`, 9999-12-31. -/
def maxOrdinal : Int := 3652059

/- `_DAYS_IN_MONTH`; index `0` holds the placeholder `-1`. -/
def daysInMonthTable : List Int :=
  [-1, 31, 28, 31, 30, 31, 30, 31, 31, 30, 31, 30, 31]

/-
  `_DAYS_BEFORE_MONTH`: after the placeholder, the running total of
  `_DAYS_IN_MONTH[1:]` before each month.
-/
def daysBeforeMonthTable : List Int :=
  -1 :: ((daysInMonthTable.drop 1).scanl (· + ·) 0).dropLast

/- `table[i]`, at an index the code keeps in range. -/
def entry (table : List Int) (i : Int) : Int :=
  table.getD i.toNat 0

/- `_is_leap(year)`. -/
def isLeap (year : Int) : Bool :=
  year % 4 = 0 && (year % 100 ≠ 0 || year % 400 = 0)

/- `_days_before_year(year)`: the days before January 1 of `year`. -/
def daysBeforeYear (year : Int) : Int :=
  let y := year - 1
  y * 365 + y / 4 - y / 100 + y / 400

/- `_days_in_month(year, month)`. -/
def daysInMonth (year month : Int) : Int :=
  if month = 2 ∧ isLeap year then 29 else entry daysInMonthTable month

/- `_days_before_month(year, month)`. -/
def daysBeforeMonth (year month : Int) : Int :=
  entry daysBeforeMonthTable month + if month > 2 ∧ isLeap year then 1 else 0

/- `_ymd2ord(year, month, day)`. -/
def ymd2ord (year month day : Int) : Int :=
  daysBeforeYear year + daysBeforeMonth year month + day

/- `_DI400Y`, `_DI100Y` and `_DI4Y`: the days of a 400-, 100- and 4-year cycle. -/
def di400y : Int := daysBeforeYear 401
def di100y : Int := daysBeforeYear 101
def di4y : Int := daysBeforeYear 5

/- `_DAYS_BEFORE_MONTH[month] + (month > 2 and leapyear)` in `_ord2ymd`. -/
def precedingDays (leapyear : Bool) (month : Int) : Int :=
  entry daysBeforeMonthTable month + if month > 2 ∧ leapyear then 1 else 0

/- `_DAYS_IN_MONTH[month] + (month == 2 and leapyear)` in `_ord2ymd`. -/
def monthLength (leapyear : Bool) (month : Int) : Int :=
  entry daysInMonthTable month + if month = 2 ∧ leapyear then 1 else 0

/-
  The end of `_ord2ymd`: the month of day `n` (from `0`) of a year,
  estimated as `(n + 50) >> 5` and moved back once when too large, and
  the day of that month.
-/
def monthDay (n : Int) (leapyear : Bool) : Int × Int :=
  let month := Int.shiftRight (n + 50) 5
  let preceding := precedingDays leapyear month
  if preceding > n then
    let month := month - 1
    let preceding := preceding - monthLength leapyear month
    (month, n - preceding + 1)
  else (month, n - preceding + 1)

/-
  `_ord2ymd(n)`: the 400-year cycles before `n`, then the 100-, 4- and
  1-year cycles; four whole 100- or 1-year cycles mean the last day of
  the previous year.
-/
def ord2ymd (n : Int) : Int × Int × Int :=
  let n := n - 1
  let n400 := n / di400y
  let n := n % di400y
  let year := n400 * 400 + 1
  let n100 := n / di100y
  let n := n % di100y
  let n4 := n / di4y
  let n := n % di4y
  let n1 := n / 365
  let n := n % 365
  let year := year + n100 * 100 + n4 * 4 + n1
  if n1 = 4 ∨ n100 = 4 then (year - 1, 12, 31)
  else
    let leapyear : Bool := n1 = 3 ∧ (n4 ≠ 24 ∨ n100 = 3)
    let (month, day) := monthDay n leapyear
    (year, month, day)

end Datetime

end MusicLabel

------------------------------------------------------------
-- The Calendar Arithmetic
------------------------------------------------------------

namespace MusicLabel

namespace Datetime

theorem isLeap_iff
    (year : Int) :
    isLeap year = true ↔ year % 4 = 0 ∧ (year % 100 ≠ 0 ∨ year % 400 = 0) := by
  simp [isLeap]

theorem di400y_eq : di400y = 146097 := by decide
theorem di100y_eq : di100y = 36524 := by decide
theorem di4y_eq : di4y = 1461 := by decide

/- A year has 365 days, and one more when it is a leap year. -/
theorem daysBeforeYear_succ
    (year : Int) :
    daysBeforeYear (year + 1) = daysBeforeYear year + 365 + if isLeap year then 1 else 0 := by
  have hLeap := isLeap_iff year
  simp only [daysBeforeYear]
  split <;> simp_all <;> omega

theorem daysBeforeYear_mono
    {year year' : Int}
    (h : year ≤ year') :
    daysBeforeYear year ≤ daysBeforeYear year' := by
  simp only [daysBeforeYear]
  omega

/- `daysBeforeYear` at the start of a year inside 400-, 100-, 4- and 1-year cycles. -/
theorem daysBeforeYear_cycles
    {a b c e : Int}
    (hb : 0 ≤ b ∧ b ≤ 3)
    (hc : 0 ≤ c ∧ c ≤ 24)
    (he : 0 ≤ e ∧ e ≤ 3) :
    daysBeforeYear (a * 400 + 1 + b * 100 + c * 4 + e) =
      a * 146097 + b * 36524 + c * 1461 + e * 365 := by
  simp only [daysBeforeYear]
  omega

/- The leap-year test of `_ord2ymd`, on the cycle counts, is `_is_leap`. -/
theorem leapyear_eq
    {a b c e : Int}
    (hb : 0 ≤ b ∧ b ≤ 3)
    (hc : 0 ≤ c ∧ c ≤ 24)
    (he : 0 ≤ e ∧ e ≤ 3) :
    decide (e = 3 ∧ (c ≠ 24 ∨ b = 3)) = isLeap (a * 400 + 1 + b * 100 + c * 4 + e) := by
  rw [Bool.eq_iff_iff, decide_eq_true_iff, isLeap_iff]
  omega

theorem daysBeforeMonth_eq_precedingDays
    (year month : Int) :
    daysBeforeMonth year month = precedingDays (isLeap year) month :=
  rfl

theorem daysInMonth_eq_monthLength
    (year : Int)
    {month : Int}
    (h : 1 ≤ month ∧ month ≤ 12) :
    daysInMonth year month = monthLength (isLeap year) month := by
  unfold daysInMonth monthLength
  by_cases h2 : month = 2
  · subst h2
    cases isLeap year <;> decide
  · simp [h2]

/-
  The month tables, month by month: the days before a month are those
  before the previous month and its length, and the months of a year
  fill `365` days, one more in a leap year.
-/
theorem month_table
    (leapyear : Bool)
    {k : Int}
    (h : 1 ≤ k ∧ k ≤ 12) :
    precedingDays leapyear 1 = 0 ∧ 28 ≤ monthLength leapyear k ∧
    (2 ≤ k → precedingDays leapyear k =
      precedingDays leapyear (k - 1) + monthLength leapyear (k - 1)) ∧
    precedingDays leapyear 12 + monthLength leapyear 12 = 365 + if leapyear then 1 else 0 := by
  obtain ⟨h1, h2⟩ := h
  cases leapyear <;> interval_cases k <;> decide

/- The estimate `(n + 50) >> 5` is the month of day `n` or the month after it. -/
theorem month_estimate
    (leapyear : Bool)
    {k : Int}
    (h : 1 ≤ k ∧ k ≤ 12) :
    (2 ≤ k → precedingDays leapyear (k - 1) + 50 ≤ 32 * k) ∧
    (32 * k - 19 < precedingDays leapyear k + monthLength leapyear k ∨
      365 ≤ precedingDays leapyear k + monthLength leapyear k) := by
  obtain ⟨h1, h2⟩ := h
  cases leapyear <;> interval_cases k <;> decide

/- The months before a later month hold the earlier month whole. -/
theorem precedingDays_add_le
    (leapyear : Bool)
    {month month' : Int}
    (h1 : 1 ≤ month)
    (hLt : month < month')
    (h12 : month' ≤ 12) :
    precedingDays leapyear month + monthLength leapyear month ≤
      precedingDays leapyear month' := by
  obtain ⟨k, rfl⟩ : ∃ k : Nat, month' = month + 1 + k := ⟨(month' - month - 1).toNat, by omega⟩
  induction k with
  | zero =>
      have hStep := (month_table leapyear (k := month + 1) (by omega)).2.2.1 (by omega)
      simp only [Nat.cast_zero, add_zero, add_sub_cancel_right] at hStep ⊢
      omega
  | succ k ih =>
      push_cast at hLt h12 ⊢
      have hStep := (month_table leapyear (k := month + 1 + k + 1) (by omega)).2.2.1 (by omega)
      have hLen := (month_table leapyear (k := month + 1 + k) (by omega)).2.1
      have := ih (by omega) (by omega)
      rw [add_sub_cancel_right] at hStep
      rw [← add_assoc, hStep]
      omega

/- A day of a month lies within its year. -/
theorem precedingDays_bounds
    (leapyear : Bool)
    {month : Int}
    (h : 1 ≤ month ∧ month ≤ 12) :
    0 ≤ precedingDays leapyear month ∧
      precedingDays leapyear month + monthLength leapyear month ≤
        365 + if leapyear then 1 else 0 := by
  obtain ⟨hFirst, -, -, hYear⟩ := month_table leapyear h
  have hJanuary := (month_table leapyear (k := 1) (by omega)).2.1
  constructor
  · rcases (show month = 1 ∨ 1 < month by omega) with rfl | hLater
    · omega
    · have := precedingDays_add_le leapyear (le_refl 1) hLater h.2
      omega
  · rcases (show month = 12 ∨ month < 12 by omega) with rfl | hEarlier
    · omega
    · have := precedingDays_add_le leapyear h.1 hEarlier (le_refl 12)
      have := (month_table leapyear (k := 12) (by omega)).2.1
      omega

/-
  The month search of `_ord2ymd`: for a day `n` of a year, a month of
  the year and a day of that month, which together count `n + 1` days.
-/
theorem monthDay_spec
    (leapyear : Bool)
    {n : Int}
    (hn : 0 ≤ n ∧ n < 365) :
    let md := monthDay n leapyear
    1 ≤ md.1 ∧ md.1 ≤ 12 ∧ 1 ≤ md.2 ∧ md.2 ≤ monthLength leapyear md.1 ∧
      precedingDays leapyear md.1 + md.2 = n + 1 := by
  obtain ⟨k, hk, hLow, hHigh⟩ :
      ∃ k, Int.shiftRight (n + 50) 5 = k ∧ 32 * k ≤ n + 50 ∧ n + 50 < 32 * k + 32 := by
    have hShift : Int.shiftRight (n + 50) 5 = (n + 50) / 32 := by
      rw [← Int.shiftRight_eq, Int.shiftRight_eq_div_pow]
      rfl
    exact ⟨_, rfl, by omega, by omega⟩
  have hRange : 1 ≤ k ∧ k ≤ 12 := by omega
  obtain ⟨hFirst, -, hStep, -⟩ := month_table leapyear hRange
  obtain ⟨hBack, hEnd⟩ := month_estimate leapyear hRange
  unfold monthDay
  simp only [hk]
  split
  case isTrue hLate =>
    -- the estimate is one month late; it cannot be January, which starts at day 0
    have h2 : 2 ≤ k := by
      rcases (show k = 1 ∨ 2 ≤ k by omega) with rfl | h2
      · omega
      · exact h2
    have := hStep h2
    have := hBack h2
    dsimp only
    refine ⟨by omega, by omega, by omega, by omega, by omega⟩
  case isFalse hOnTime =>
    dsimp only
    refine ⟨by omega, by omega, by omega, by omega, by omega⟩

/-
  `_ord2ymd` inverts `_ymd2ord`, for every integer: it returns a month,
  a day of that month, and a year with that ordinal.
-/
theorem ord2ymd_spec
    (n : Int) :
    let ymd := ord2ymd n
    1 ≤ ymd.2.1 ∧ ymd.2.1 ≤ 12 ∧ 1 ≤ ymd.2.2 ∧ ymd.2.2 ≤ daysInMonth ymd.1 ymd.2.1 ∧
      ymd2ord ymd.1 ymd.2.1 ymd.2.2 = n := by
  unfold ord2ymd
  simp only [di400y_eq, di100y_eq, di4y_eq]
  obtain ⟨a, b, c, e, r, ha, hb, hc, he, hr, hSum, hbB, hcB, heB, hrB, hFour, hLast⟩ :
      ∃ a b c e r, (n - 1) / 146097 = a ∧ (n - 1) % 146097 / 36524 = b ∧
        (n - 1) % 146097 % 36524 / 1461 = c ∧ (n - 1) % 146097 % 36524 % 1461 / 365 = e ∧
        (n - 1) % 146097 % 36524 % 1461 % 365 = r ∧
        n - 1 = a * 146097 + b * 36524 + c * 1461 + e * 365 + r ∧
        (0 ≤ b ∧ b ≤ 4) ∧ (0 ≤ c ∧ c ≤ 24) ∧ (0 ≤ e ∧ e ≤ 4) ∧ (0 ≤ r ∧ r < 365) ∧
        (b = 4 → c = 0 ∧ e = 0 ∧ r = 0) ∧ (e = 4 → c ≤ 23 ∧ r = 0) :=
    ⟨_, _, _, _, _, rfl, rfl, rfl, rfl, rfl, by omega, by omega, by omega, by omega, by omega,
      by omega, by omega⟩
  simp only [ha, hb, hc, he, hr]
  split
  case isTrue hSpecial =>
    -- December 31 closing a 4-year or a 400-year cycle: the year before starts a cycle's last year
    obtain ⟨b', c', hb', hc', hYear, hDays⟩ : ∃ b' c', (0 ≤ b' ∧ b' ≤ 3) ∧ (0 ≤ c' ∧ c' ≤ 24) ∧
        a * 400 + 1 + b * 100 + c * 4 + e - 1 = a * 400 + 1 + b' * 100 + c' * 4 + 3 ∧
        n - 1 = a * 146097 + b' * 36524 + c' * 1461 + 3 * 365 + 365 := by
      rcases hSpecial with h | h
      · exact ⟨b, c, by omega, by omega, by omega, by omega⟩
      · exact ⟨3, 24, by omega, by omega, by omega, by omega⟩
    have hLeap : isLeap (a * 400 + 1 + b' * 100 + c' * 4 + 3) = true := by
      rw [isLeap_iff]
      omega
    have hDecember : precedingDays true 12 = 335 := by decide
    dsimp only
    rw [hYear, ymd2ord, daysBeforeMonth_eq_precedingDays,
      daysBeforeYear_cycles hb' hc' (by omega), daysInMonth_eq_monthLength _ (by omega), hLeap]
    exact ⟨by omega, by omega, by omega, by decide, by omega⟩
  case isFalse hRegular =>
    have hb3 : 0 ≤ b ∧ b ≤ 3 := by omega
    have he3 : 0 ≤ e ∧ e ≤ 3 := by omega
    rw [leapyear_eq hb3 hcB he3]
    obtain ⟨h1, h12, hd1, hdLen, hdSum⟩ :=
      monthDay_spec (isLeap (a * 400 + 1 + b * 100 + c * 4 + e)) hrB
    dsimp only
    rw [daysInMonth_eq_monthLength _ ⟨h1, h12⟩, ymd2ord, daysBeforeMonth_eq_precedingDays,
      daysBeforeYear_cycles hb3 hcB he3]
    exact ⟨h1, h12, hd1, hdLen, by omega⟩

/- The ordinal of a day of a month lies within its year. -/
theorem ymd2ord_bounds
    {year month day : Int}
    (hMonth : 1 ≤ month ∧ month ≤ 12)
    (hDay : 1 ≤ day ∧ day ≤ daysInMonth year month) :
    daysBeforeYear year < ymd2ord year month day ∧
      ymd2ord year month day ≤ daysBeforeYear (year + 1) := by
  rw [daysInMonth_eq_monthLength year hMonth] at hDay
  have := precedingDays_bounds (isLeap year) hMonth
  rw [ymd2ord, daysBeforeMonth_eq_precedingDays, daysBeforeYear_succ]
  omega

end Datetime

end MusicLabel

------------------------------------------------------------
-- Dates
------------------------------------------------------------

namespace MusicLabel

open Datetime

/- A `date`: a year, a month and a day that `_check_date_fields` accepts. -/
@[ext]
structure PyDate where
  year : Int
  month : Int
  day : Int
  yearRange : minYear ≤ year ∧ year ≤ maxYear
  monthRange : 1 ≤ month ∧ month ≤ 12
  dayRange : 1 ≤ day ∧ day ≤ daysInMonth year month
  deriving DecidableEq

namespace PyDate

/-
  `date(year, month, day)`: `_check_date_fields`, which raises
  `ValueError` for the first field out of range.
-/
def new (year month day : Int) : Except PyError PyDate :=
  if hYear : minYear ≤ year ∧ year ≤ maxYear then
    if hMonth : 1 ≤ month ∧ month ≤ 12 then
      if hDay : 1 ≤ day ∧ day ≤ daysInMonth year month then
        .ok ⟨year, month, day, hYear, hMonth, hDay⟩
      else .error .valueError
    else .error .valueError
  else .error .valueError

/- `date.toordinal()`. -/
def toOrdinal (d : PyDate) : Int :=
  ymd2ord d.year d.month d.day

/- `date.fromordinal(n)`: `cls(*_ord2ymd(n))`. -/
def fromOrdinal (n : Int) : Except PyError PyDate :=
  let (year, month, day) := ord2ymd n
  new year month day

/-
  `timedelta(days=days).days`: the constructor raises `OverflowError`
  past `999999999` days either way.
-/
def timedeltaDays (days : Int) : Except PyError Int :=
  if 999999999 < |days| then .error .overflowError else .ok days

/-
  `date + timedelta(days=days)`, once the `timedelta` is built: the
  date of the moved ordinal, `OverflowError` outside `1..MAXORDINAL`.
-/
def addDays (d : PyDate) (days : Int) : Except PyError PyDate :=
  let o := d.toOrdinal + days
  if 0 < o ∧ o ≤ maxOrdinal then fromOrdinal o else .error .overflowError

/- `(a - b).days`: `timedelta(days1 - days2)` of the two ordinals. -/
def sub (a b : PyDate) : Except PyError Int :=
  timedeltaDays (a.toOrdinal - b.toOrdinal)

/- `date._cmp`: the tuples `(year, month, day)` compared in order. -/
def cmp (a b : PyDate) : Ordering :=
  (compare a.year b.year).then ((compare a.month b.month).then (compare a.day b.day))

/- `a <= b`: `a._cmp(b) <= 0`. -/
def le (a b : PyDate) : Bool :=
  a.cmp b ≠ .gt

end PyDate

end MusicLabel

------------------------------------------------------------
-- Ordinals of Dates
------------------------------------------------------------

namespace MusicLabel

namespace PyDate

open Datetime

theorem new_eq_ok
    {year month day : Int}
    (hYear : minYear ≤ year ∧ year ≤ maxYear)
    (hMonth : 1 ≤ month ∧ month ≤ 12)
    (hDay : 1 ≤ day ∧ day ≤ daysInMonth year month) :
    new year month day = .ok ⟨year, month, day, hYear, hMonth, hDay⟩ := by
  simp [new, hYear, hMonth, hDay]

/- Every date has an ordinal in `1..MAXORDINAL`. -/
theorem toOrdinal_bounds
    (d : PyDate) :
    1 ≤ d.toOrdinal ∧ d.toOrdinal ≤ maxOrdinal := by
  obtain ⟨hLow, hHigh⟩ := ymd2ord_bounds d.monthRange d.dayRange
  obtain ⟨hFirst, hLast⟩ := d.yearRange
  have hStart := daysBeforeYear_mono hFirst
  have hEnd := daysBeforeYear_mono (show d.year + 1 ≤ 10000 by unfold maxYear at hLast; omega)
  have h1 : daysBeforeYear minYear = 0 := by decide
  have h2 : daysBeforeYear 10000 = 3652059 := by decide
  unfold toOrdinal maxOrdinal
  omega

theorem toOrdinal_lt_of_year_lt
    {a b : PyDate}
    (h : a.year < b.year) :
    a.toOrdinal < b.toOrdinal := by
  have ha := ymd2ord_bounds a.monthRange a.dayRange
  have hb := ymd2ord_bounds b.monthRange b.dayRange
  have := daysBeforeYear_mono (show a.year + 1 ≤ b.year by omega)
  unfold toOrdinal
  omega

theorem toOrdinal_lt_of_month_lt
    {a b : PyDate}
    (hYear : a.year = b.year)
    (h : a.month < b.month) :
    a.toOrdinal < b.toOrdinal := by
  have hDay := a.dayRange
  rw [daysInMonth_eq_monthLength _ a.monthRange] at hDay
  have := precedingDays_add_le (isLeap a.year) a.monthRange.1 h b.monthRange.2
  have := b.dayRange.1
  unfold toOrdinal ymd2ord
  rw [daysBeforeMonth_eq_precedingDays, daysBeforeMonth_eq_precedingDays, ← hYear]
  omega

theorem toOrdinal_lt_of_day_lt
    {a b : PyDate}
    (hYear : a.year = b.year)
    (hMonth : a.month = b.month)
    (h : a.day < b.day) :
    a.toOrdinal < b.toOrdinal := by
  unfold toOrdinal ymd2ord
  rw [hYear, hMonth]
  omega

/- `date._cmp` orders dates as their ordinals. -/
theorem cmp_eq_compare_toOrdinal
    (a b : PyDate) :
    a.cmp b = compare a.toOrdinal b.toOrdinal := by
  unfold cmp
  rcases lt_trichotomy a.year b.year with hYear | hYear | hYear
  · rw [compare_lt_iff_lt.mpr hYear, compare_lt_iff_lt.mpr (toOrdinal_lt_of_year_lt hYear)]
    rfl
  · rw [compare_eq_iff_eq.mpr hYear]
    rcases lt_trichotomy a.month b.month with hMonth | hMonth | hMonth
    · rw [compare_lt_iff_lt.mpr hMonth,
        compare_lt_iff_lt.mpr (toOrdinal_lt_of_month_lt hYear hMonth)]
      rfl
    · rw [compare_eq_iff_eq.mpr hMonth]
      rcases lt_trichotomy a.day b.day with hDay | hDay | hDay
      · rw [compare_lt_iff_lt.mpr hDay,
          compare_lt_iff_lt.mpr (toOrdinal_lt_of_day_lt hYear hMonth hDay)]
        rfl
      · rw [PyDate.ext hYear hMonth hDay, compare_eq_iff_eq.mpr rfl, compare_eq_iff_eq.mpr rfl]
        rfl
      · rw [compare_gt_iff_gt.mpr hDay,
          compare_gt_iff_gt.mpr (toOrdinal_lt_of_day_lt hYear.symm hMonth.symm hDay)]
        rfl
    · rw [compare_gt_iff_gt.mpr hMonth,
        compare_gt_iff_gt.mpr (toOrdinal_lt_of_month_lt hYear.symm hMonth)]
      rfl
  · rw [compare_gt_iff_gt.mpr hYear, compare_gt_iff_gt.mpr (toOrdinal_lt_of_year_lt hYear)]
    rfl

theorem toOrdinal_injective
    {a b : PyDate}
    (h : a.toOrdinal = b.toOrdinal) :
    a = b := by
  have hCmp := cmp_eq_compare_toOrdinal a b
  rw [h, compare_eq_iff_eq.mpr rfl, cmp, Ordering.then_eq_eq, Ordering.then_eq_eq, compare_eq_iff_eq,
    compare_eq_iff_eq, compare_eq_iff_eq] at hCmp
  exact PyDate.ext hCmp.1 hCmp.2.1 hCmp.2.2

/- `a <= b` on dates is `<=` on their ordinals. -/
theorem le_iff
    (a b : PyDate) :
    a.le b = true ↔ a.toOrdinal ≤ b.toOrdinal := by
  rw [le, cmp_eq_compare_toOrdinal, decide_eq_true_iff, Ne, compare_gt_iff_gt, not_lt]

/- `date.fromordinal(n)` succeeds on every ordinal in `1..MAXORDINAL`. -/
theorem fromOrdinal_eq_ok
    {n : Int}
    (h : 1 ≤ n ∧ n ≤ maxOrdinal) :
    ∃ d, fromOrdinal n = .ok d ∧ d.toOrdinal = n := by
  have hSpec := ord2ymd_spec n
  dsimp only at hSpec
  unfold fromOrdinal
  rcases hTriple : ord2ymd n with ⟨year, month, day⟩
  rw [hTriple] at hSpec
  dsimp only at hSpec ⊢
  obtain ⟨hMonth1, hMonth12, hDay1, hDayLen, hOrd⟩ := hSpec
  obtain ⟨hLow, hHigh⟩ := ymd2ord_bounds ⟨hMonth1, hMonth12⟩ ⟨hDay1, hDayLen⟩
  have hYear : minYear ≤ year ∧ year ≤ maxYear := by
    have h1 : daysBeforeYear 1 = 0 := by decide
    have h2 : daysBeforeYear 10000 = 3652059 := by decide
    unfold minYear maxYear
    unfold maxOrdinal at h
    constructor
    · by_contra hBefore
      have := daysBeforeYear_mono (show year + 1 ≤ 1 by omega)
      omega
    · by_contra hAfter
      have := daysBeforeYear_mono (show 10000 ≤ year by omega)
      omega
  exact ⟨_, new_eq_ok hYear ⟨hMonth1, hMonth12⟩ ⟨hDay1, hDayLen⟩, hOrd⟩

/- `date.fromordinal(d.toordinal()) == d`. -/
theorem fromOrdinal_toOrdinal
    (d : PyDate) :
    fromOrdinal d.toOrdinal = .ok d := by
  obtain ⟨d', hOk, hOrd⟩ := fromOrdinal_eq_ok (toOrdinal_bounds d)
  rw [hOk, toOrdinal_injective hOrd]

/- `date + timedelta(days=k)` moves the ordinal by `k` when it stays in range. -/
theorem addDays_of_range
    (d : PyDate)
    {days : Int}
    (h : 0 < d.toOrdinal + days ∧ d.toOrdinal + days ≤ maxOrdinal) :
    ∃ d', d.addDays days = .ok d' ∧ d'.toOrdinal = d.toOrdinal + days := by
  unfold addDays
  rw [if_pos h]
  exact fromOrdinal_eq_ok ⟨by omega, h.2⟩

theorem addDays_of_not_range
    (d : PyDate)
    {days : Int}
    (h : ¬(0 < d.toOrdinal + days ∧ d.toOrdinal + days ≤ maxOrdinal)) :
    d.addDays days = .error .overflowError := by
  unfold addDays
  rw [if_neg h]

/- `(a - b).days` is the difference of the ordinals; it never overflows. -/
theorem sub_eq
    (a b : PyDate) :
    a.sub b = .ok (a.toOrdinal - b.toOrdinal) := by
  have ha := toOrdinal_bounds a
  have hb := toOrdinal_bounds b
  unfold sub timedeltaDays maxOrdinal at *
  rw [if_neg (not_lt.mpr (abs_le.mpr ⟨by omega, by omega⟩))]

end PyDate

end MusicLabel
