import MusicLabel.Python.Value
import Mathlib.Data.Nat.Digits
import Mathlib.Data.String.Basic

/-
  The text round trip of decimals: `Decimal(str(d))` gives back `d`,
  its sign, coefficient and exponent included, for every decimal of
  the model (NaN diagnostics are not modelled).

  `str(d)` places the point in one of three ways: after the whole
  coefficient, inside it, or after `0.` and some zeros. Each layout is
  parsed back by its own lemma, and `parse_toSciString` dispatches on
  the conditions of `toSciString`.

  Correctness is proven by:
    * `Text.toDigits_eq`: `Nat.repr` spells the base-10 digits
    * `Decimal.parse_integer_layout`, `Decimal.parse_point_layout`,
      `Decimal.parse_zero_layout`
    * `Decimal.parse_toSciString`

  Main declarations:
    * `Text.reprDigits`, `Decimal.exponentPart`
    * `Decimal.parse_toSciString`, `Value.toDecimal_decimal`
-/

------------------------------------------------------------
-- Digits of Nat.repr
------------------------------------------------------------

namespace MusicLabel

namespace Text

/- The digits `Nat.repr n` spells, most significant first. -/
def reprDigits (n : Nat) : List Nat :=
  if n = 0 then [0] else (Nat.digits 10 n).reverse

theorem toDigitsCore_eq
    (fuel n : Nat)
    (ds : List Char)
    (hn : 0 < n)
    (hFuel : n < fuel) :
    Nat.toDigitsCore 10 fuel n ds = (Nat.digits 10 n).reverse.map Nat.digitChar ++ ds := by
  induction fuel generalizing n ds with
  | zero => omega
  | succ fuel ih =>
      rw [Nat.toDigitsCore, Nat.digits_def' (by norm_num) hn]
      by_cases hDiv : n / 10 = 0
      · simp [hDiv]
      · simp only [hDiv, ↓reduceIte, ih (n / 10) _ (Nat.pos_of_ne_zero hDiv) (by omega),
          List.reverse_cons, List.map_append, List.map_cons, List.map_nil, List.append_assoc,
          List.singleton_append]

theorem toDigits_eq
    (n : Nat) :
    Nat.toDigits 10 n = (reprDigits n).map Nat.digitChar := by
  unfold Nat.toDigits reprDigits
  split
  · subst n
    rfl
  · exact (toDigitsCore_eq _ n [] (Nat.pos_of_ne_zero ‹_›) (by omega)).trans (List.append_nil _)

theorem repr_data
    (n : Nat) :
    (Nat.repr n).data = (reprDigits n).map Nat.digitChar := by
  rw [Nat.repr, toDigits_eq]
  rfl

theorem length_repr
    (n : Nat) :
    (Nat.repr n).length = (reprDigits n).length := by
  rw [String.length, repr_data, List.length_map]

theorem reprDigits_lt
    {n d : Nat}
    (h : d ∈ reprDigits n) :
    d < 10 := by
  unfold reprDigits at h
  split at h
  · simp_all
  · exact Nat.digits_lt_base (by norm_num) (List.mem_reverse.mp h)

theorem reprDigits_ne_nil
    (n : Nat) :
    reprDigits n ≠ [] := by
  unfold reprDigits
  split
  · simp
  · simpa [Nat.digits_eq_nil_iff_eq_zero]

theorem digitsToNat_append
    (ds es : List Nat) :
    digitsToNat (ds ++ es) = digitsToNat ds * 10 ^ es.length + digitsToNat es := by
  suffices h : ∀ acc, es.foldl (fun acc d => 10 * acc + d) acc =
      acc * 10 ^ es.length + es.foldl (fun acc d => 10 * acc + d) 0 by
    rw [digitsToNat, List.foldl_append, h]
    rfl
  induction es with
  | nil => simp
  | cons d es ih =>
      intro acc
      simp only [List.foldl_cons, ih (10 * acc + d), ih (10 * 0 + d), List.length_cons, pow_succ]
      ring

/- Read most significant first, the reversed digits are `Nat.ofDigits`. -/
theorem digitsToNat_reverse
    (ds : List Nat) :
    digitsToNat ds.reverse = Nat.ofDigits 10 ds := by
  induction ds with
  | nil => rfl
  | cons d ds ih =>
      rw [List.reverse_cons, digitsToNat_append, ih, Nat.ofDigits_cons]
      simp [digitsToNat]
      ring

theorem digitsToNat_reprDigits
    (n : Nat) :
    digitsToNat (reprDigits n) = n := by
  unfold reprDigits
  split
  · subst n
    rfl
  · rw [digitsToNat_reverse, Nat.ofDigits_digits]

theorem digitsToNat_replicate_append
    (k : Nat)
    (ds : List Nat) :
    digitsToNat (List.replicate k 0 ++ ds) = digitsToNat ds := by
  rw [digitsToNat_append]
  suffices h : digitsToNat (List.replicate k 0) = 0 by simp [h]
  induction k with
  | zero => rfl
  | succ k ih =>
      rw [List.replicate_succ', digitsToNat_append, ih]
      rfl

theorem asciiDigitValue_digitChar
    {d : Nat}
    (h : d < 10) :
    asciiDigitValue (Nat.digitChar d) = some d := by
  revert d
  decide

/- A run of digits is read back up to the first character that is not one. -/
theorem spanDigits_digits
    {ds : List Nat}
    {rest : List Char}
    (hds : ∀ d ∈ ds, d < 10)
    (hRest : spanDigits rest = ([], rest)) :
    spanDigits (ds.map Nat.digitChar ++ rest) = (ds, rest) := by
  induction ds with
  | nil => exact hRest
  | cons d ds ih =>
      have hTail := ih fun d' hd' => hds d' (List.mem_cons_of_mem d hd')
      rw [List.map_cons, List.cons_append, spanDigits,
        asciiDigitValue_digitChar (hds d (List.mem_cons_self d ds))]
      simp only [hTail]

end Text

end MusicLabel

------------------------------------------------------------
-- Numeric Text
------------------------------------------------------------

namespace MusicLabel

namespace Text

/- The characters `str` writes a finite decimal with. -/
def numericChars : List Char :=
  "0123456789+-.E".toList

/- No character of a finite `str(d)` is stripped, dropped or rejected by `Decimal(s)`. -/
theorem numericChars_plain :
    ∀ c ∈ numericChars, isSpace c = false ∧ c ≠ '_' ∧ 0 < c.toNat ∧ c.toNat ≤ 127 := by
  decide

theorem digitChar_mem_numericChars
    {d : Nat}
    (h : d < 10) :
    Nat.digitChar d ∈ numericChars := by
  revert d
  decide

theorem digits_numeric
    {ds : List Nat}
    (hds : ∀ d ∈ ds, d < 10) :
    ∀ c ∈ ds.map Nat.digitChar, c ∈ numericChars := by
  intro c hc
  obtain ⟨d, hd, rfl⟩ := List.mem_map.mp hc
  exact digitChar_mem_numericChars (hds d hd)

theorem dropWhile_of_forall
    {p : Char → Bool}
    {cs : List Char}
    (h : ∀ c ∈ cs, p c = false) :
    cs.dropWhile p = cs := by
  cases cs with
  | nil => rfl
  | cons c cs => simp [List.dropWhile_cons, h c (List.mem_cons_self c cs)]

theorem strip_of_forall
    {space : Char → Bool}
    {cs : List Char}
    (h : ∀ c ∈ cs, space c = false) :
    strip space cs = cs := by
  rw [strip, dropWhile_of_forall h, dropWhile_of_forall fun c hc => h c (List.mem_reverse.mp hc),
    List.reverse_reverse]

theorem asAscii_of_numeric
    {cs : List Char}
    (h : ∀ c ∈ cs, c ∈ numericChars) :
    asAscii true cs = some cs := by
  induction cs with
  | nil => rfl
  | cons c cs ih =>
      obtain ⟨-, hUnderscore, hPos, hAscii⟩ :=
        numericChars_plain c (h c (List.mem_cons_self c cs))
      rw [asAscii, if_neg (by simp [hUnderscore]), if_pos ⟨hPos, hAscii⟩,
        ih fun c' hc' => h c' (List.mem_cons_of_mem c hc')]
      rfl

end Text

end MusicLabel

------------------------------------------------------------
-- Parsing the Parts of str(d)
------------------------------------------------------------

namespace MusicLabel

namespace Decimal

open Text

theorem sign_data
    (negative : Bool) :
    (if negative then "-" else "").data = if negative then ['-'] else [] := by
  cases negative <;> rfl

theorem spanSign_of_ne
    {c : Char}
    (hMinus : c ≠ '-')
    (hPlus : c ≠ '+')
    (cs : List Char) :
    spanSign (c :: cs) = (false, c :: cs) := by
  unfold spanSign
  split <;> simp_all

/- A digit is no sign, and its lower case starts none of `inf`, `nan`, `snan`. -/
theorem digitChar_not_special :
    ∀ d < 10, Nat.digitChar d ≠ '-' ∧ Nat.digitChar d ≠ '+' ∧
      Char.toLower (Nat.digitChar d) ≠ 'i' ∧ Char.toLower (Nat.digitChar d) ≠ 'n' ∧
      Char.toLower (Nat.digitChar d) ≠ 's' := by
  decide

theorem parseAscii_digit
    (negative : Bool)
    {d : Nat}
    (hd : d < 10)
    (cs : List Char) :
    parseAscii ((if negative then ['-'] else []) ++ Nat.digitChar d :: cs) =
      parseFinite negative (Nat.digitChar d :: cs) := by
  obtain ⟨hMinus, hPlus, hI, hN, hS⟩ := digitChar_not_special d hd
  have hSign : spanSign ((if negative then ['-'] else []) ++ Nat.digitChar d :: cs) =
      (negative, Nat.digitChar d :: cs) := by
    cases negative
    · exact spanSign_of_ne hMinus hPlus cs
    · rfl
  simp only [parseAscii, hSign, lowerAscii, List.map_cons]
  rw [if_neg (by simp [hI])]
  split <;> simp_all

/- A string of numeric characters that starts with a sign and a digit is a finite number. -/
theorem parse_of_data
    {s : String}
    (negative : Bool)
    {d : Nat}
    (rest : List Char)
    (hd : d < 10)
    {result : Decimal}
    (hData : s.data = (if negative then ['-'] else []) ++ Nat.digitChar d :: rest)
    (hRest : ∀ c ∈ rest, c ∈ numericChars)
    (hFinite : parseFinite negative (Nat.digitChar d :: rest) = some result)
    (hRange : result.inRange) :
    parse s = .ok result := by
  have hNumeric : ∀ c ∈ s.data, c ∈ numericChars := by
    rw [hData]
    intro c hc
    simp only [List.mem_append, List.mem_cons] at hc
    rcases hc with hc | rfl | hc
    · cases negative <;> simp_all [numericChars]
    · exact digitChar_mem_numericChars hd
    · exact hRest c hc
  have hStrip : strip isSpace s.data = s.data :=
    strip_of_forall fun c hc => (numericChars_plain c (hNumeric c hc)).1
  rw [parse, String.toList, hStrip, asAscii_of_numeric hNumeric, Option.some_bind, hData,
    parseAscii_digit negative hd]
  simp only [hFinite, hRange, ↓reduceIte]

theorem parseFinite_integer
    (negative : Bool)
    {ds : List Nat}
    {rest : List Char}
    {exponent : Int}
    (hds : ∀ d ∈ ds, d < 10)
    (hne : ds ≠ [])
    (hRest : spanDigits rest = ([], rest))
    (hNoPoint : ∀ tail, rest ≠ '.' :: tail)
    (hExponent : parseExponent rest = some exponent) :
    parseFinite negative (ds.map Nat.digitChar ++ rest) =
      some (finite negative (digitsToNat ds) exponent) := by
  have hFraction : (match rest with
      | '.' :: rest => spanDigits rest
      | rest => ([], rest)) = ([], rest) := by
    split
    · exact absurd rfl (hNoPoint _)
    · rfl
  simp only [parseFinite, spanDigits_digits hds hRest, hFraction, hne, and_true, ↓reduceIte,
    hExponent, Option.map_some', List.append_nil, List.length_nil, Nat.cast_zero, sub_zero]

theorem parseFinite_point
    (negative : Bool)
    {is fs : List Nat}
    {rest : List Char}
    {exponent : Int}
    (his : ∀ d ∈ is, d < 10)
    (hfs : ∀ d ∈ fs, d < 10)
    (hne : is ≠ [])
    (hRest : spanDigits rest = ([], rest))
    (hExponent : parseExponent rest = some exponent) :
    parseFinite negative (is.map Nat.digitChar ++ '.' :: (fs.map Nat.digitChar ++ rest)) =
      some (finite negative (digitsToNat (is ++ fs)) (exponent - fs.length)) := by
  simp only [parseFinite, spanDigits_digits his (rfl : spanDigits ('.' :: _) = _),
    spanDigits_digits hfs hRest, hne, false_and, ↓reduceIte, hExponent, Option.map_some']

/- The exponent part of `str(d)`: empty for zero, else `E`, a sign and the digits. -/
def exponentPart (shown : Int) : String :=
  if shown = 0 then "" else "E" ++ (if shown < 0 then "-" else "+") ++ Nat.repr shown.natAbs

theorem exponentPart_numeric
    (shown : Int) :
    ∀ c ∈ (exponentPart shown).data, c ∈ numericChars := by
  unfold exponentPart
  split
  · simp
  · intro c hc
    simp only [String.data_append, List.mem_append, repr_data, List.mem_map] at hc
    rcases hc with (hc | hc) | ⟨d, hd, rfl⟩
    · simp_all [numericChars]
    · split at hc <;> simp_all [numericChars]
    · exact digitChar_mem_numericChars (reprDigits_lt hd)

theorem spanDigits_exponentPart
    (shown : Int) :
    spanDigits (exponentPart shown).data = ([], (exponentPart shown).data) := by
  unfold exponentPart
  split <;> rfl

theorem exponentPart_ne_point
    (shown : Int)
    (tail : List Char) :
    (exponentPart shown).data ≠ '.' :: tail := by
  unfold exponentPart
  split <;> simp

theorem parseExponent_exponentPart
    (shown : Int) :
    parseExponent (exponentPart shown).data = some shown := by
  unfold exponentPart
  split
  · simp_all [parseExponent]
  · have hDigits := spanDigits_digits (fun d hd => reprDigits_lt (n := shown.natAbs) hd)
      (rfl : spanDigits [] = ([], []))
    rw [List.append_nil] at hDigits
    simp only [String.data_append, repr_data, parseExponent]
    by_cases hNeg : shown < 0 <;>
      simp [hNeg, spanSign, hDigits, reprDigits_ne_nil, digitsToNat_reprDigits, signed,
        -Int.natCast_natAbs] <;> omega

end Decimal

end MusicLabel

------------------------------------------------------------
-- The Three Layouts and the Round Trip
------------------------------------------------------------

namespace MusicLabel

namespace Decimal

open Text

/- `str(d)` with the point after the whole coefficient, and its parse. -/
theorem parse_integer_layout
    (negative : Bool)
    (coefficient : Nat)
    (shown exponent : Int)
    (hExponent : exponent = shown)
    (hRange : (finite negative coefficient exponent).inRange) :
    parse ((if negative then "-" else "") ++ Nat.repr coefficient ++ exponentPart shown) =
      .ok (finite negative coefficient exponent) := by
  subst exponent
  obtain ⟨d, ds, hds⟩ := List.exists_cons_of_ne_nil (reprDigits_ne_nil coefficient)
  have hLt : ∀ d' ∈ d :: ds, d' < 10 := fun d' hd' => reprDigits_lt (hds ▸ hd')
  refine parse_of_data negative (ds.map Nat.digitChar ++ (exponentPart shown).data)
    (hLt d (List.mem_cons_self d ds))
    (by simp only [String.data_append, sign_data, repr_data, hds, List.map_cons,
      List.append_assoc, List.cons_append])
    (fun c hc => by
      simp only [List.mem_append] at hc
      exact hc.elim (digits_numeric (fun d' hd' => hLt d' (List.mem_cons_of_mem d hd')) c)
        (exponentPart_numeric shown c)) ?_ hRange
  rw [← List.cons_append, ← List.map_cons, ← hds,
    parseFinite_integer negative (fun d' hd' => reprDigits_lt hd') (reprDigits_ne_nil _)
      (spanDigits_exponentPart shown) (exponentPart_ne_point shown)
      (parseExponent_exponentPart shown), digitsToNat_reprDigits]

/- `str(d)` with the point after `j` digits of the coefficient, and its parse. -/
theorem parse_point_layout
    (negative : Bool)
    (coefficient j : Nat)
    (hj : 0 < j)
    (shown exponent : Int)
    (hExponent : exponent = shown - ((Nat.repr coefficient).length - j : Nat))
    (hRange : (finite negative coefficient exponent).inRange) :
    parse ((if negative then "-" else "") ++
        ((Nat.repr coefficient).take j ++ "." ++ (Nat.repr coefficient).drop j) ++
        exponentPart shown) =
      .ok (finite negative coefficient exponent) := by
  subst exponent
  obtain ⟨d, ds, hds⟩ := List.exists_cons_of_ne_nil (reprDigits_ne_nil coefficient)
  obtain ⟨j, rfl⟩ : ∃ j', j = j' + 1 := ⟨j - 1, by omega⟩
  have hLt : ∀ d' ∈ d :: ds, d' < 10 := fun d' hd' => reprDigits_lt (hds ▸ hd')
  have hTail : ∀ d' ∈ ds, d' < 10 := fun d' hd' => hLt d' (List.mem_cons_of_mem d hd')
  refine parse_of_data negative ((ds.take j).map Nat.digitChar ++
      '.' :: ((ds.drop j).map Nat.digitChar ++ (exponentPart shown).data))
    (hLt d (List.mem_cons_self d ds))
    (by simp only [String.data_append, sign_data, String.data_take, String.data_drop, repr_data,
      hds, List.map_cons, List.take_succ_cons, List.drop_succ_cons, List.map_take, List.map_drop,
      List.append_assoc, List.cons_append, List.singleton_append]; rfl)
    (fun c hc => by
      simp only [List.mem_append, List.mem_cons] at hc
      rcases hc with hc | rfl | hc | hc
      · exact digits_numeric (fun d' hd' => hTail d' (List.mem_of_mem_take hd')) c hc
      · decide
      · exact digits_numeric (fun d' hd' => hTail d' (List.mem_of_mem_drop hd')) c hc
      · exact exponentPart_numeric shown c hc) ?_ hRange
  rw [← List.cons_append, ← List.map_cons,
    parseFinite_point negative (fun d' hd' => ?_) (fun d' hd' => hTail d' (List.mem_of_mem_drop hd'))
      (List.cons_ne_nil _ _) (spanDigits_exponentPart shown) (parseExponent_exponentPart shown),
    List.cons_append, List.take_append_drop, ← hds, digitsToNat_reprDigits, length_repr, hds]
  · simp
  · rcases List.mem_cons.mp hd' with rfl | hd'
    · exact hLt _ (List.mem_cons_self _ _)
    · exact hTail d' (List.mem_of_mem_take hd')

/- `str(d)` with zeros between the point and the coefficient, and its parse. -/
theorem parse_zero_layout
    (negative : Bool)
    (coefficient k : Nat)
    (shown exponent : Int)
    (hExponent : exponent = shown - (k + (Nat.repr coefficient).length : Nat))
    (hRange : (finite negative coefficient exponent).inRange) :
    parse ((if negative then "-" else "") ++ ("0." ++ zeros k ++ Nat.repr coefficient) ++
        exponentPart shown) =
      .ok (finite negative coefficient exponent) := by
  subst exponent
  have hLt : ∀ d' ∈ List.replicate k 0 ++ reprDigits coefficient, d' < 10 := by
    intro d' hd'
    rcases List.mem_append.mp hd' with hd' | hd'
    · rw [List.eq_of_mem_replicate hd']
      decide
    · exact reprDigits_lt hd'
  refine parse_of_data negative ('.' :: ((List.replicate k 0 ++ reprDigits coefficient).map
      Nat.digitChar ++ (exponentPart shown).data)) (by decide : 0 < 10)
    (by simp only [String.data_append, sign_data, repr_data, zeros, List.map_append,
      List.map_replicate, List.append_assoc]; rfl)
    (fun c hc => by
      simp only [List.mem_append, List.mem_cons] at hc
      rcases hc with rfl | hc | hc
      · decide
      · exact digits_numeric hLt c hc
      · exact exponentPart_numeric shown c hc) ?_ hRange
  rw [show ∀ rest : List Char, Nat.digitChar 0 :: rest = [0].map Nat.digitChar ++ rest
      from fun _ => rfl,
    parseFinite_point negative (by decide) hLt (List.cons_ne_nil _ _)
      (spanDigits_exponentPart shown) (parseExponent_exponentPart shown),
    ← List.append_assoc, List.singleton_append, ← List.replicate_succ,
    digitsToNat_replicate_append, digitsToNat_reprDigits, length_repr]
  simp

/- The finite case: the layout `toSciString` picks parses back to the same exponent. -/
theorem parse_toSciString_finite
    (negative : Bool)
    (coefficient : Nat)
    (exponent : Int)
    (hRange : (finite negative coefficient exponent).inRange) :
    parse (toSciString (finite negative coefficient exponent)) =
      .ok (finite negative coefficient exponent) := by
  have hPos : 0 < (Nat.repr coefficient).length := by
    rw [length_repr]
    exact List.length_pos.mpr (reprDigits_ne_nil coefficient)
  simp only [toSciString]
  generalize hDot : (if exponent ≤ 0 ∧ -6 < exponent + ((Nat.repr coefficient).length : Int)
    then exponent + ((Nat.repr coefficient).length : Int) else 1) = dotPlace
  change parse (_ ++ exponentPart (exponent + ((Nat.repr coefficient).length : Int) - dotPlace)) = _
  have hZero : zeros 0 = "" := rfl
  by_cases hZeros : dotPlace ≤ 0
  · -- `0.`, zeros, then the coefficient
    rw [if_pos hZeros]
    exact parse_zero_layout negative coefficient _ _ exponent
      (by split_ifs at hDot <;> omega) hRange
  · rw [if_neg hZeros]
    by_cases hWhole : (Nat.repr coefficient).length ≤ dotPlace.toNat
    · -- the point after the whole coefficient, where no zero follows it
      rw [if_pos hWhole, show dotPlace.toNat - (Nat.repr coefficient).length = 0 by
        split_ifs at hDot <;> omega, hZero, String.append_empty]
      exact parse_integer_layout negative coefficient _ exponent
        (by split_ifs at hDot <;> omega) hRange
    · -- the point inside the coefficient
      rw [if_neg hWhole]
      exact parse_point_layout negative coefficient _ (by omega) _ exponent
        (by split_ifs at hDot <;> omega) hRange

/-
  `Decimal(str(d))` is `d` again, sign, coefficient and exponent
  included, for every decimal within the exponent bounds, which every
  `Decimal` value keeps.
-/
theorem parse_toSciString
    (d : Decimal)
    (hRange : d.inRange) :
    parse d.toSciString = .ok d := by
  cases d with
  | finite negative coefficient exponent =>
      exact parse_toSciString_finite negative coefficient exponent hRange
  | infinity negative => cases negative <;> rfl
  | nan negative signaling => cases negative <;> cases signaling <;> rfl

end Decimal

end MusicLabel

------------------------------------------------------------
-- Values within the Exponent Bounds
------------------------------------------------------------

namespace MusicLabel

namespace Decimal

variable {negative : Bool} {coefficient : Nat} {exponent : Int} {a b d : Decimal}

/- `Decimal(s)` returns only values within the bounds. -/
theorem inRange_of_parse
    {s : String}
    (h : parse s = .ok d) :
    d.inRange := by
  unfold parse at h
  split at h
  · split at h
    · cases h
      assumption
    · cases h
  · cases h

/-
  A coefficient with at most `prec` digits more than a shift rounds to
  at most `10^prec`.
-/
theorem roundCoefficient_le_pow
    (rounding : Rounding)
    (coefficient shift : Nat)
    (hDigits : numDigits coefficient ≤ prec + shift) :
    roundCoefficient rounding coefficient shift ≤ 10 ^ prec := by
  refine roundCoefficient_le rounding (Nat.le_of_lt ?_)
  calc coefficient < 10 ^ numDigits coefficient := lt_pow_numDigits coefficient
    _ ≤ 10 ^ (prec + shift) := Nat.pow_le_pow_right (by omega) hDigits
    _ = 10 ^ prec * 10 ^ shift := pow_add 10 prec shift

/-
  Every value `fix` returns lies within the default context, whose
  bounds lie within those of the maximum context.
-/
theorem inRange_of_fix
    (h : fix negative coefficient exponent = .ok d) :
    d.inRange := by
  have hBounds : etiny = -1000026 ∧ etop = 999972 ∧ emax = 999999 ∧ (prec : Int) = 28 :=
    ⟨rfl, rfl, rfl, rfl⟩
  have hOne := one_le_numDigits coefficient
  unfold fix at h
  dsimp only at h
  split_ifs at h with hZero hOverflow hRound hCarry hCarryOverflow <;> cases h <;>
    simp only [inRange, minEtiny, maxEmax, Bool.and_eq_true, decide_eq_true_eq]
  · -- a zero: the exponent clamped into `[Etiny, Emax]`
    have hZeroDigits : numDigits 0 = 1 := rfl
    omega
  · -- a carry out of the rounded coefficient: one digit fewer, one exponent more
    have hRounded := roundCoefficient_le_pow .halfEven coefficient
      (max ((numDigits coefficient : Int) + exponent - prec) etiny - exponent).toNat (by omega)
    have hDigits := (numDigits_le_iff (by decide : 1 ≤ prec)).mpr
      (lt_of_le_of_lt (Nat.div_le_div_right hRounded) (by decide : 10 ^ prec / 10 < 10 ^ prec))
    omega
  · -- a rounded coefficient of at most `prec` digits
    omega
  · -- an exact result
    omega

/- `Decimal._check_nans` answers only with a NaN. -/
theorem inRange_of_checkNans
    (h : checkNans a b = some (.ok d)) :
    d.inRange := by
  unfold checkNans at h
  split at h <;> cases h <;> rfl

/-
  An operation that asks `_check_nans` first returns a value within the
  bounds when its own computation, reached only without a NaN, does.
-/
theorem inRange_of_getD_checkNans
    {computed : Except Signal Decimal}
    (hComputed : computed = .ok d → d.inRange)
    (h : (checkNans a b).getD computed = .ok d) :
    d.inRange := by
  cases hNans : checkNans a b with
  | some r =>
      rw [hNans, Option.getD_some] at h
      exact inRange_of_checkNans (h ▸ hNans)
  | none =>
      rw [hNans, Option.getD_none] at h
      exact hComputed h

/- Every sum `Decimal.__add__` returns lies within the bounds. -/
theorem inRange_of_add
    (h : add a b = .ok d) :
    d.inRange := by
  refine inRange_of_getD_checkNans (fun h => ?_) h
  split at h
  · split_ifs at h
    cases h
    rfl
  · cases h
    rfl
  · cases h
    rfl
  · unfold addFinite at h
    dsimp only at h
    split_ifs at h <;> exact inRange_of_fix h
  · cases h

/- Every difference `Decimal.__sub__` returns lies within the bounds. -/
theorem inRange_of_sub
    (h : sub a b = .ok d) :
    d.inRange :=
  inRange_of_getD_checkNans inRange_of_add h

/- Every value `Decimal.quantize` returns lies within the bounds. -/
theorem inRange_of_quantize
    {rounding : Rounding}
    (h : quantize a b rounding = .ok d) :
    d.inRange := by
  refine inRange_of_getD_checkNans (fun h => ?_) h
  split at h
  · cases h
    rfl
  · dsimp only at h
    split_ifs at h <;> exact inRange_of_fix h
  · cases h

/- `min(x, y)` returns one of its operands. -/
theorem eq_operand_of_pyMin
    {x y : Decimal}
    (h : pyMin x y = .ok d) :
    d = x ∨ d = y := by
  unfold pyMin at h
  cases hLt : lt y x with
  | error e => simp [hLt, bind, Except.bind] at h
  | ok less =>
      cases less <;> simp only [hLt, bind, Except.bind, pure, Except.pure, Bool.false_eq_true,
        ↓reduceIte, Except.ok.injEq] at h <;> simp [h]

end Decimal

namespace Value

/- A `Decimal` argument goes through `Decimal(str(v))` unchanged. -/
theorem toDecimal_decimal
    (d : Decimal)
    (hRange : d.inRange) :
    (Value.decimal d).toDecimal = .ok d := by
  simp [toDecimal, toStr, Decimal.parse_toSciString d hRange, Except.bind]

/- `Decimal(str(v))` returns only values within the bounds. -/
theorem inRange_of_toDecimal
    {v : Value}
    {d : Decimal}
    (h : v.toDecimal = .ok d) :
    d.inRange := by
  obtain ⟨s, -, hParse⟩ := bind_eq_ok.mp h
  exact Decimal.inRange_of_parse (liftSignal_eq_ok.mp hParse)

theorem toDecimal_decimal_at_largest_exponent :
    (Decimal.finite false 1 Decimal.maxEmax).inRange ∧
      (Value.decimal (.finite false 1 Decimal.maxEmax)).toDecimal =
        .ok (.finite false 1 Decimal.maxEmax) :=
  ⟨by decide, toDecimal_decimal _ (by decide)⟩

end Value

end MusicLabel
