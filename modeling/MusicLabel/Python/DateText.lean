import MusicLabel.Python.Date
import MusicLabel.Python.DecimalText

/-
  `datetime.strptime(s, "%Y-%m-%d").date()`, the parse of a contract's
  expiry date, and `date.isoformat()`, the text `YYYY-MM-DD` of a date.

  `_strptime` compiles the format to the pattern
  `(?P<Y>\d\d\d\d)-(?P<m>1[0-2]|0[1-9]|[1-9])-(?P<d>3[0-1]|[1-2]\d|0[1-9]|[1-9]| [1-9])`,
  takes its first match at the start of the text, the alternatives of a
  group tried in order, rejects text left after the match, reads each
  group with `int`, and builds the date, which checks the fields. Every
  failure is a `ValueError`. `\d` is any Unicode decimal digit; the flag
  `IGNORECASE` changes nothing for digits, `-` and the space.

  Correctness is proven by:
    * `Strptime.matchRun_append`: a match reads only the text it needs
    * `PyDate.parseInt_digits`: `int` of the digits of a group
    * `PyDate.matchYmd_isoformat`: the first match on an ISO date
    * `PyDate.strptime_isoformat_eq_new`: the parse of an ISO date reads its fields
    * `PyDate.strptime_isoformat`: every date is read back from its ISO text

  Main declarations:
    * `Strptime.matchYmd`
    * `PyDate.strptime`, `PyDate.isoformat`
-/

------------------------------------------------------------
-- The Pattern of "%Y-%m-%d"
------------------------------------------------------------

namespace MusicLabel

namespace Strptime

/- One position of the pattern: `\d`, a range `[lo-hi]`, or a character. -/
inductive CharClass
  | digit
  | range (lo hi : Char)
  | literal (c : Char)

/- Whether a character matches a position. -/
def CharClass.accepts : CharClass → Char → Bool
  | .digit, c => (Text.digitValue c).isSome
  | .range lo hi, c => lo ≤ c && c ≤ hi
  | .literal c', c => c == c'

/- A run of positions matched at the start of a text: the characters matched and the rest. -/
def matchRun : List CharClass → List Char → Option (List Char × List Char)
  | [], cs => some ([], cs)
  | _ :: _, [] => none
  | k :: ks, c :: cs =>
      if k.accepts c then (matchRun ks cs).map fun (m, rest) => (c :: m, rest) else none

/- A group of alternatives: every way it matches at the start, the first alternative first. -/
def matchGroup
    (alternatives : List (List CharClass))
    (cs : List Char) : List (List Char × List Char) :=
  alternatives.filterMap fun alternative => matchRun alternative cs

/- `(?P<Y>\d\d\d\d)`. -/
def yearGroup : List (List CharClass) :=
  [[.digit, .digit, .digit, .digit]]

/- `(?P<m>1[0-2]|0[1-9]|[1-9])`. -/
def monthGroup : List (List CharClass) :=
  [[.literal '1', .range '0' '2'], [.literal '0', .range '1' '9'], [.range '1' '9']]

/- `(?P<d>3[0-1]|[1-2]\d|0[1-9]|[1-9]| [1-9])`. -/
def dayGroup : List (List CharClass) :=
  [[.literal '3', .range '0' '1'], [.range '1' '2', .digit], [.literal '0', .range '1' '9'],
    [.range '1' '9'], [.literal ' ', .range '1' '9']]

/- The separator `-`. -/
def separator : List (List CharClass) :=
  [[.literal '-']]

/-
  `format_regex.match(s)`: the matches at the start of `s`, in the order
  the regex engine tries them, going back into a group when a later
  part fails; the first is the one it returns, as the groups `Y`, `m`
  and `d` and the text after the match.
-/
def matchYmd (cs : List Char) : Option ((List Char × List Char × List Char) × List Char) :=
  ((matchGroup yearGroup cs).flatMap fun (year, rest) =>
    (matchGroup separator rest).flatMap fun (_, rest) =>
      (matchGroup monthGroup rest).flatMap fun (month, rest) =>
        (matchGroup separator rest).flatMap fun (_, rest) =>
          (matchGroup dayGroup rest).map fun (day, rest) => ((year, month, day), rest)).head?

end Strptime

namespace PyDate

/-
  `datetime.strptime(s, "%Y-%m-%d").date()`: `ValueError` when the
  pattern does not match, when text remains after the match, or when
  the fields make no date.
-/
def strptime (s : String) : Except PyError PyDate :=
  match Strptime.matchYmd s.toList with
  | none => .error .valueError
  | some ((year, month, day), rest) =>
      if rest ≠ [] then .error .valueError
      else
        match Text.parseInt (String.mk year), Text.parseInt (String.mk month),
            Text.parseInt (String.mk day) with
        | some year, some month, some day => new year month day
        | _, _, _ => .error .valueError

/- `"%0<width>d" % n` for `n ≥ 0`: the digits of `n`, zero-filled on the left to `width`. -/
def zeroPadded (width : Nat) (n : Int) : String :=
  let digits := Nat.repr n.toNat
  Text.zeros (width - digits.length) ++ digits

/- `date.isoformat()`: `"%04d-%02d-%02d" % (year, month, day)`. -/
def isoformat (d : PyDate) : String :=
  zeroPadded 4 d.year ++ "-" ++ zeroPadded 2 d.month ++ "-" ++ zeroPadded 2 d.day

end PyDate

end MusicLabel

------------------------------------------------------------
-- Matching Fixed Text
------------------------------------------------------------

namespace MusicLabel

namespace Strptime

/- A run no longer than a text reads only that text, whatever follows it. -/
theorem matchRun_append
    (ks : List CharClass)
    {xs : List Char}
    (rest : List Char)
    (h : ks.length ≤ xs.length) :
    matchRun ks (xs ++ rest) = (matchRun ks xs).map fun p => (p.1, p.2 ++ rest) := by
  induction ks generalizing xs with
  | nil => rfl
  | cons k ks ih =>
      cases xs with
      | nil => simp at h
      | cons c xs =>
          show matchRun (k :: ks) (c :: (xs ++ rest)) = _
          simp only [matchRun]
          split
          · rw [ih (by simpa using h), Option.map_map, Option.map_map]
            rfl
          · rfl

theorem matchGroup_append
    (alternatives : List (List CharClass))
    {xs : List Char}
    (rest : List Char)
    (h : ∀ alternative ∈ alternatives, alternative.length ≤ xs.length) :
    matchGroup alternatives (xs ++ rest) =
      (matchGroup alternatives xs).map fun p => (p.1, p.2 ++ rest) := by
  induction alternatives with
  | nil => rfl
  | cons alternative alternatives ih =>
      simp only [matchGroup, List.filterMap_cons] at ih ⊢
      rw [matchRun_append alternative rest (h alternative (List.mem_cons_self _ _)),
        ih fun a ha => h a (List.mem_cons_of_mem _ ha)]
      cases matchRun alternative xs <;> rfl

theorem matchGroup_separator
    (cs : List Char) :
    matchGroup separator ('-' :: cs) = [(['-'], cs)] :=
  rfl

/- The first element of a list of continuations whose first continuation yields something. -/
theorem head?_flatMap_of_head?
    {α β : Type}
    {l : List α}
    {f : α → List β}
    {a : α}
    {b : β}
    (hl : l.head? = some a)
    (hf : (f a).head? = some b) :
    (l.flatMap f).head? = some b := by
  rw [List.eq_cons_of_mem_head? hl, List.flatMap_cons,
    List.head?_append_of_ne_nil _ (by rintro hNil; simp [hNil] at hf), hf]

end Strptime

end MusicLabel

------------------------------------------------------------
-- Digits of a Field
------------------------------------------------------------

namespace MusicLabel

namespace PyDate

open Text

theorem digitValue_digitChar
    {d : Nat}
    (h : d < 10) :
    digitValue (Nat.digitChar d) = some d := by
  revert d
  decide

/- The digits of `zeroPadded width n`, most significant first. -/
def paddedDigits (width : Nat) (n : Int) : List Nat :=
  List.replicate (width - (reprDigits n.toNat).length) 0 ++ reprDigits n.toNat

theorem zeroPadded_data
    (width : Nat)
    (n : Int) :
    (zeroPadded width n).data = (paddedDigits width n).map Nat.digitChar := by
  rw [zeroPadded, String.data_append, zeros, repr_data, length_repr, paddedDigits,
    List.map_append, List.map_replicate]
  rfl

theorem paddedDigits_spec
    {width : Nat}
    {n : Int}
    (hWidth : 0 < width)
    (h0 : 0 ≤ n)
    (h : n < 10 ^ width) :
    (paddedDigits width n).length = width ∧ (∀ d ∈ paddedDigits width n, d < 10) ∧
      (digitsToNat (paddedDigits width n) : Int) = n := by
  have hLen : (reprDigits n.toNat).length ≤ width := by
    rw [← length_repr]
    exact Nat.repr_length _ _ hWidth (by zify; rw [Int.toNat_of_nonneg h0]; exact h)
  refine ⟨by simp [paddedDigits]; omega, ?_, ?_⟩
  · intro d hd
    rcases List.mem_append.mp hd with hZero | hDigit
    · rw [(List.mem_replicate.mp hZero).2]
      norm_num
    · exact reprDigits_lt hDigit
  · rw [paddedDigits, digitsToNat_replicate_append, digitsToNat_reprDigits, Int.toNat_of_nonneg h0]

/- Digit characters are printable ASCII: `int` neither drops nor reads them as space. -/
theorem digitChar_plain :
    ∀ d < 10, 0 < (Nat.digitChar d).toNat ∧ (Nat.digitChar d).toNat ≤ 127 ∧
      Nat.digitChar d ≠ '_' ∧ isAsciiSpace (Nat.digitChar d) = false := by
  decide

theorem asAscii_digitChars
    (dropUnderscores : Bool)
    {ds : List Nat}
    (hds : ∀ d ∈ ds, d < 10) :
    asAscii dropUnderscores (ds.map Nat.digitChar) = some (ds.map Nat.digitChar) := by
  induction ds with
  | nil => rfl
  | cons d ds ih =>
      obtain ⟨hPos, hAscii, hUnderscore, -⟩ := digitChar_plain d (hds d (List.mem_cons_self d ds))
      rw [List.map_cons, asAscii, if_neg (by simp [hUnderscore]), if_pos ⟨hPos, hAscii⟩,
        ih fun d' hd' => hds d' (List.mem_cons_of_mem d hd')]
      rfl

theorem underscoredDigits_digitChars
    {ds : List Nat}
    (hNe : ds ≠ [])
    (hds : ∀ d ∈ ds, d < 10) :
    underscoredDigits (ds.map Nat.digitChar) = some ds := by
  induction ds with
  | nil => exact absurd rfl hNe
  | cons d ds ih =>
      have hd := asciiDigitValue_digitChar (hds d (List.mem_cons_self d ds))
      cases ds with
      | nil => simp [underscoredDigits, hd]
      | cons d' ds =>
          have hNotUnderscore := (digitChar_plain d' (hds d' (by simp))).2.2.1
          have hTail := ih (List.cons_ne_nil _ _) fun e he => hds e (List.mem_cons_of_mem d he)
          simp only [List.map_cons] at hTail ⊢
          unfold underscoredDigits
          rw [hd]
          split
          next hNil => simp at hNil
          next hSep => exact absurd (List.cons.inj hSep).1 hNotUnderscore
          next _ _ hSome _ _ =>
            rw [hTail]
            cases hSome
            rfl
          next hNone => simp at hNone

/- `int` of a group of digits is the number they spell. -/
theorem parseInt_digits
    {ds : List Nat}
    (hNe : ds ≠ [])
    (hds : ∀ d ∈ ds, d < 10)
    (hLen : ds.length ≤ intMaxStrDigits) :
    parseInt (String.mk (ds.map Nat.digitChar)) = some (digitsToNat ds : Int) := by
  obtain ⟨d, ds', rfl⟩ := List.exists_cons_of_ne_nil hNe
  have hd := hds d (List.mem_cons_self d ds')
  obtain ⟨-, -, -, hSpace⟩ := digitChar_plain d hd
  have hSign := Decimal.digitChar_not_special d hd
  have hStrip : strip isAsciiSpace ((d :: ds').map Nat.digitChar) = (d :: ds').map Nat.digitChar :=
    strip_of_forall fun c hc => by
      obtain ⟨e, he, rfl⟩ := List.mem_map.mp hc
      exact (digitChar_plain e (hds e he)).2.2.2
  unfold parseInt
  rw [show (String.mk ((d :: ds').map Nat.digitChar)).toList = (d :: ds').map Nat.digitChar from rfl,
    asAscii_digitChars false hds, Option.some_bind, hStrip, List.map_cons,
    Decimal.spanSign_of_ne hSign.1 hSign.2.1]
  dsimp only
  rw [← List.map_cons, underscoredDigits_digitChars hNe hds]
  rw [Option.some_bind, if_neg (Nat.not_lt.mpr hLen)]
  rfl

end PyDate

end MusicLabel

------------------------------------------------------------
-- Reading an ISO Date Back
------------------------------------------------------------

namespace MusicLabel

namespace PyDate

open Strptime Text Datetime

/- The year group takes the four digits of a year. -/
theorem matchGroup_yearGroup
    {ds : List Nat}
    (hLen : ds.length = 4)
    (hds : ∀ d ∈ ds, d < 10)
    (rest : List Char) :
    matchGroup yearGroup (ds.map Nat.digitChar ++ rest) = [(ds.map Nat.digitChar, rest)] := by
  match ds, hLen with
  | [a, b, c, e], _ =>
      simp [matchGroup, yearGroup, matchRun, CharClass.accepts,
        digitValue_digitChar (hds a (by simp)), digitValue_digitChar (hds b (by simp)),
        digitValue_digitChar (hds c (by simp)), digitValue_digitChar (hds e (by simp))]

theorem length_zeroPadded_two
    {n : Int}
    (h : 1 ≤ n ∧ n ≤ 31) :
    (zeroPadded 2 n).data.length = 2 := by
  rw [zeroPadded_data, List.length_map]
  exact (paddedDigits_spec (by norm_num) (by omega) (by omega)).1

/- The month group first matches the two digits of a month, whatever follows. -/
theorem matchGroup_monthGroup
    {month : Int}
    (h : 1 ≤ month ∧ month ≤ 12)
    (rest : List Char) :
    (matchGroup monthGroup ((zeroPadded 2 month).data ++ rest)).head? =
      some ((zeroPadded 2 month).data, rest) := by
  have hLen := length_zeroPadded_two (n := month) (by omega)
  rw [matchGroup_append monthGroup rest (by simp [monthGroup, hLen]), List.head?_map]
  have hFirst : (matchGroup monthGroup (zeroPadded 2 month).data).head? =
      some ((zeroPadded 2 month).data, []) := by
    obtain ⟨h1, h12⟩ := h
    interval_cases month <;> decide
  rw [hFirst]
  rfl

theorem daysInMonth_le
    (year : Int)
    {month : Int}
    (h : 1 ≤ month ∧ month ≤ 12) :
    daysInMonth year month ≤ 31 := by
  rw [daysInMonth_eq_monthLength year h]
  obtain ⟨h1, h12⟩ := h
  cases isLeap year <;> interval_cases month <;> decide

/- The day group first matches the two digits of a day, whatever follows. -/
theorem matchGroup_dayGroup
    {day : Int}
    (h : 1 ≤ day ∧ day ≤ 31)
    (rest : List Char) :
    (matchGroup dayGroup ((zeroPadded 2 day).data ++ rest)).head? =
      some ((zeroPadded 2 day).data, rest) := by
  have hLen := length_zeroPadded_two h
  rw [matchGroup_append dayGroup rest (by simp [dayGroup, hLen]), List.head?_map]
  have hFirst : (matchGroup dayGroup (zeroPadded 2 day).data).head? =
      some ((zeroPadded 2 day).data, []) := by
    obtain ⟨h1, h31⟩ := h
    interval_cases day <;> decide
  rw [hFirst]
  rfl

theorem isoformat_data
    (d : PyDate) :
    (isoformat d).data =
      (zeroPadded 4 d.year).data ++ '-' :: ((zeroPadded 2 d.month).data ++
        '-' :: (zeroPadded 2 d.day).data) := by
  simp [isoformat, List.append_assoc]

/- The pattern matches the whole ISO text of a date, as its three fields. -/
theorem matchYmd_isoformat
    (d : PyDate) :
    matchYmd (isoformat d).toList =
      some (((zeroPadded 4 d.year).data, (zeroPadded 2 d.month).data,
        (zeroPadded 2 d.day).data), []) := by
  have hYear := d.yearRange
  unfold minYear maxYear at hYear
  obtain ⟨hLen, hDigits, -⟩ := @paddedDigits_spec 4 d.year (by norm_num)
    (by omega) (by norm_num; omega)
  have hDay : 1 ≤ d.day ∧ d.day ≤ 31 :=
    ⟨d.dayRange.1, d.dayRange.2.trans (daysInMonth_le d.year d.monthRange)⟩
  rw [String.toList, isoformat_data, matchYmd]
  rw [zeroPadded_data 4 d.year, matchGroup_yearGroup hLen hDigits]
  refine head?_flatMap_of_head? rfl ?_
  dsimp only
  rw [matchGroup_separator]
  refine head?_flatMap_of_head? rfl ?_
  dsimp only
  refine head?_flatMap_of_head? (matchGroup_monthGroup d.monthRange _) ?_
  dsimp only
  rw [matchGroup_separator]
  refine head?_flatMap_of_head? rfl ?_
  dsimp only
  rw [← List.append_nil (zeroPadded 2 d.day).data, List.head?_map,
    matchGroup_dayGroup hDay, List.append_nil]
  rfl

/- `int` of a zero-padded field is the field. -/
theorem parseInt_zeroPadded
    {width : Nat}
    {n : Int}
    (hWidth : 0 < width ∧ width ≤ intMaxStrDigits)
    (h0 : 0 ≤ n)
    (h : n < 10 ^ width) :
    parseInt (String.mk (zeroPadded width n).data) = some n := by
  obtain ⟨hLen, hDigits, hValue⟩ := paddedDigits_spec hWidth.1 h0 h
  rw [zeroPadded_data, parseInt_digits (List.ne_nil_of_length_pos (by omega)) hDigits (by omega),
    hValue]

/- The parse reads the three fields of a date back from its ISO text. -/
theorem strptime_isoformat_eq_new
    (d : PyDate) :
    strptime (isoformat d) = new d.year d.month d.day := by
  have hYear := d.yearRange
  have hMonth := d.monthRange
  have hDay := d.dayRange
  have hDay31 := daysInMonth_le d.year hMonth
  unfold minYear maxYear at hYear
  have hMax : 0 < 4 ∧ 4 ≤ intMaxStrDigits := by decide
  have hMax2 : 0 < 2 ∧ 2 ≤ intMaxStrDigits := by decide
  rw [strptime, matchYmd_isoformat]
  dsimp only
  rw [if_neg (not_not.mpr rfl),
    parseInt_zeroPadded hMax (by omega) (by norm_num; omega),
    parseInt_zeroPadded hMax2 (by omega) (by norm_num; omega),
    parseInt_zeroPadded hMax2 (by omega) (by norm_num; omega)]

/-
  `strptime(d.isoformat(), "%Y-%m-%d").date() == d`: every date is read
  back from its ISO text.
-/
theorem strptime_isoformat
    (d : PyDate) :
    strptime (isoformat d) = .ok d := by
  rw [strptime_isoformat_eq_new]
  exact new_eq_ok d.yearRange d.monthRange d.dayRange

end PyDate

end MusicLabel

