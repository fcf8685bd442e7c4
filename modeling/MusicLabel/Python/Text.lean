import MusicLabel.Python.Decimal

/-
  The text forms of numbers that the royalty engine goes through:
  `Decimal(s)` on a string, `str(d)` on a decimal, and `int(s)` and
  `str(n)` on integers.

  Both parsers first do what CPython does to the string: strip Unicode
  whitespace, read every Unicode decimal digit as its ASCII digit, and
  (for `Decimal`) drop every underscore. The tables are those of the
  Unicode database of Python 3.11.

  Main declarations:
    * `Text.isSpace`, `Text.digitValue`
    * `Decimal.parse` (`Decimal(s)`) and `Decimal.toSciString` (`str(d)`)
    * `Text.parseInt` (`int(s)`) and `Text.intToStr` (`str(n)`)
-/

------------------------------------------------------------
-- Unicode Whitespace and Digits
------------------------------------------------------------

namespace MusicLabel

namespace Text

/- `str.isspace` on one character. -/
def isSpace (c : Char) : Bool :=
  (0x9 ≤ c.toNat && c.toNat ≤ 0xD) || (0x1C ≤ c.toNat && c.toNat ≤ 0x20) ||
    c.toNat = 0x85 || c.toNat = 0xA0 || c.toNat = 0x1680 ||
    (0x2000 ≤ c.toNat && c.toNat ≤ 0x200A) || c.toNat = 0x2028 ||
    c.toNat = 0x2029 || c.toNat = 0x202F || c.toNat = 0x205F ||
    c.toNat = 0x3000

/-
  The code points of the digit zero of every Unicode block of decimal
  digits; each block holds the ten digits in order.
-/
def digitZeros : List Nat :=
  [0x30, 0x660, 0x6F0, 0x7C0, 0x966, 0x9E6, 0xA66, 0xAE6, 0xB66, 0xBE6,
    0xC66, 0xCE6, 0xD66, 0xDE6, 0xE50, 0xED0, 0xF20, 0x1040, 0x1090,
    0x17E0, 0x1810, 0x1946, 0x19D0, 0x1A80, 0x1A90, 0x1B50, 0x1BB0,
    0x1C40, 0x1C50, 0xA620, 0xA8D0, 0xA900, 0xA9D0, 0xA9F0, 0xAA50,
    0xABF0, 0xFF10, 0x104A0, 0x10D30, 0x11066, 0x110F0, 0x11136, 0x111D0,
    0x112F0, 0x11450, 0x114D0, 0x11650, 0x116C0, 0x11730, 0x118E0,
    0x11950, 0x11C50, 0x11D50, 0x11DA0, 0x16A60, 0x16AC0, 0x16B50,
    0x1D7CE, 0x1D7D8, 0x1D7E2, 0x1D7EC, 0x1D7F6, 0x1E140, 0x1E2F0,
    0x1E950, 0x1FBF0]

/- `unicodedata.decimal(c)`: the digit a character stands for. -/
def digitValue (c : Char) : Option Nat :=
  (digitZeros.find? fun first => first ≤ c.toNat ∧ c.toNat < first + 10).map
    fun first => c.toNat - first

/- The ASCII digit character of `d < 10`. -/
def asciiDigit (d : Nat) : Char :=
  Char.ofNat (0x30 + d)

/- The whitespace `PyLong_FromString` skips: ASCII `isspace`. -/
def isAsciiSpace (c : Char) : Bool :=
  c = ' ' || c = '\t' || c = '\n' || c.toNat = 0xB || c.toNat = 0xC || c = '\r'

/- Leading and trailing characters satisfying `space` removed. -/
def strip (space : Char → Bool) (cs : List Char) : List Char :=
  ((cs.dropWhile space).reverse.dropWhile space).reverse

/-
  `numeric_as_ascii`: keep ASCII characters, read other whitespace as a
  space and other digits as ASCII digits, and fail on anything else.
  Underscores are dropped when `dropUnderscores` holds.
-/
def asAscii (dropUnderscores : Bool) : List Char → Option (List Char)
  | [] => some []
  | c :: cs =>
      if dropUnderscores ∧ c = '_' then asAscii dropUnderscores cs
      else if 0 < c.toNat ∧ c.toNat ≤ 127 then
        (asAscii dropUnderscores cs).map (c :: ·)
      else if isSpace c then (asAscii dropUnderscores cs).map (' ' :: ·)
      else
        match digitValue c with
        | some d => (asAscii dropUnderscores cs).map (asciiDigit d :: ·)
        | none => none

/- The value of an ASCII digit character. -/
def asciiDigitValue (c : Char) : Option Nat :=
  if '0' ≤ c ∧ c ≤ '9' then some (c.toNat - 0x30) else none

/- The longest prefix of ASCII digits, as digit values, and the rest. -/
def spanDigits : List Char → List Nat × List Char
  | [] => ([], [])
  | c :: cs =>
      match asciiDigitValue c with
      | some d =>
          let (ds, rest) := spanDigits cs
          (d :: ds, rest)
      | none => ([], c :: cs)

/- The number a list of digits spells, most significant first. -/
def digitsToNat (ds : List Nat) : Nat :=
  ds.foldl (fun acc d => 10 * acc + d) 0

/- ASCII letters lowered, as `str.lower` on ASCII text. -/
def lowerAscii (cs : List Char) : List Char :=
  cs.map Char.toLower

/- `n` zero characters. -/
def zeros (n : Nat) : String :=
  String.mk (List.replicate n '0')

/- An optional leading sign: whether it is `-`, and the rest. -/
def spanSign : List Char → Bool × List Char
  | '-' :: cs => (true, cs)
  | '+' :: cs => (false, cs)
  | cs => (false, cs)

end Text

end MusicLabel

------------------------------------------------------------
-- Decimal Strings
------------------------------------------------------------

namespace MusicLabel

namespace Decimal

open Text

/- The optional exponent part `E[sign]digits` of a numeric string. -/
def parseExponent : List Char → Option Int
  | [] => some 0
  | c :: cs =>
      if c = 'e' ∨ c = 'E' then
        let (negative, rest) := spanSign cs
        let (ds, rest) := spanDigits rest
        if ds = [] ∨ rest ≠ [] then none
        else some (signed negative (digitsToNat ds))
      else none

/-
  A finite numeric string after its sign: integer digits, an optional
  point with fraction digits, at least one digit, an optional exponent.
-/
def parseFinite (negative : Bool) (cs : List Char) : Option Decimal :=
  let (intDigits, rest) := spanDigits cs
  let (fracDigits, rest) :=
    match rest with
    | '.' :: rest => spanDigits rest
    | rest => ([], rest)
  if intDigits = [] ∧ fracDigits = [] then none
  else
    (parseExponent rest).map fun exponent =>
      finite negative (digitsToNat (intDigits ++ fracDigits))
        (exponent - fracDigits.length)

/-
  The grammar of `Decimal(s)` on normalized ASCII text: a sign, then a
  finite number, `Inf`, `Infinity`, or a NaN with optional diagnostic
  digits (the diagnostic is not kept), letters in either case.
-/
def parseAscii (cs : List Char) : Option Decimal :=
  let (negative, rest) := spanSign cs
  let lowered := lowerAscii rest
  if lowered = "inf".toList ∨ lowered = "infinity".toList then
    some (infinity negative)
  else
    match lowered with
    | 'n' :: 'a' :: 'n' :: payload =>
        if (spanDigits payload).2 = [] then some (nan negative false) else none
    | 's' :: 'n' :: 'a' :: 'n' :: payload =>
        if (spanDigits payload).2 = [] then some (nan negative true) else none
    | _ => parseFinite negative rest

/-
  `MAX_EMAX` and `MIN_ETINY` of the C implementation on 64-bit
  platforms: the exponent bounds of the maximum context that
  `Decimal(s)` converts in.
-/
def maxEmax : Int := 999999999999999999

def minEtiny : Int := -1999999999999999997

/-
  Whether the maximum context holds a value exactly: a finite value
  needs an exponent of at least `MIN_ETINY` and an adjusted exponent of
  at most `MAX_EMAX`; past either, `mpd_qfinalize` rounds or clamps it.
-/
def inRange : Decimal → Bool
  | finite _ coefficient exponent =>
      minEtiny ≤ exponent && exponent + numDigits coefficient - 1 ≤ maxEmax
  | _ => true

/-
  `Decimal(s)` for a string `s`: exact, whatever the context; a string
  outside the grammar signals `InvalidOperation` (`ConversionSyntax`),
  and so does a value the maximum context cannot hold exactly, since
  `PyDecType_FromCStringExact` turns `Inexact`, `Rounded` and `Clamped`
  into `InvalidOperation`. The limit of `MAX_PREC` digits is left out:
  it takes a string of 10^18 digits.
-/
def parse (s : String) : Except Signal Decimal :=
  match (asAscii true (strip isSpace s.toList)).bind parseAscii with
  | some d => if d.inRange then .ok d else .error .invalidOperation
  | none => .error .invalidOperation

/-
  `Decimal.__str__`: plain notation when the exponent is at most zero
  and the leading digit is not far right of the point, scientific
  notation otherwise.
-/
def toSciString : Decimal → String
  | infinity negative => (if negative then "-" else "") ++ "Infinity"
  | nan negative false => (if negative then "-" else "") ++ "NaN"
  | nan negative true => (if negative then "-" else "") ++ "sNaN"
  | finite negative coefficient exponent =>
      let digits := Nat.repr coefficient
      let n := digits.length
      let leftDigits : Int := exponent + n
      let dotPlace : Int :=
        if exponent ≤ 0 ∧ -6 < leftDigits then leftDigits else 1
      let body :=
        if dotPlace ≤ 0 then "0." ++ zeros (-dotPlace).toNat ++ digits
        else if n ≤ dotPlace.toNat then digits ++ zeros (dotPlace.toNat - n)
        else digits.take dotPlace.toNat ++ "." ++ digits.drop dotPlace.toNat
      let shown := leftDigits - dotPlace
      let exponentPart :=
        if shown = 0 then ""
        else "E" ++ (if shown < 0 then "-" else "+") ++ Nat.repr shown.natAbs
      (if negative then "-" else "") ++ body ++ exponentPart

end Decimal

end MusicLabel

------------------------------------------------------------
-- Integer Strings
------------------------------------------------------------

namespace MusicLabel

namespace Text

/-
  `sys.get_int_max_str_digits()`: the most digits `int(s)` and `str(n)`
  convert before raising `ValueError`.
-/
def intMaxStrDigits : Nat := 4300

/-
  Decimal digits with single underscores between them, as `int(s)`
  accepts them; `none` for a misplaced underscore or a non-digit.
-/
def underscoredDigits : List Char → Option (List Nat)
  | [] => none
  | c :: cs =>
      match asciiDigitValue c, cs with
      | some d, [] => some [d]
      | some d, '_' :: rest => (underscoredDigits rest).map (d :: ·)
      | some d, rest => (underscoredDigits rest).map (d :: ·)
      | none, _ => none

/-
  `int(s)` for a string `s` in base 10: surrounding ASCII whitespace
  (after other whitespace is read as a space), a sign,
  digits with single underscores between them; `none` where Python
  raises `ValueError` (also past `intMaxStrDigits` digits).
-/
def parseInt (s : String) : Option Int :=
  (asAscii false s.toList).bind fun cs =>
    let (negative, rest) := spanSign (strip isAsciiSpace cs)
    (underscoredDigits rest).bind fun ds =>
      if intMaxStrDigits < ds.length then none
      else some (Decimal.signed negative (digitsToNat ds))

/- `str(n)` for an integer; `none` past `intMaxStrDigits` digits. -/
def intToStr (n : Int) : Option String :=
  let digits := Nat.repr n.natAbs
  if intMaxStrDigits < digits.length then none
  else some ((if n < 0 then "-" else "") ++ digits)

end Text

end MusicLabel
