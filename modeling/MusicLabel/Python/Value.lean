import MusicLabel.Python.Float

/-
  The Python values a revenue row may carry, the exceptions the
  modelled code raises or lets through, the records it logs, and the
  conversions `Decimal(str(v))` and `int(v)` that `calculate` applies
  to a row's revenue and streams.

  Main declarations:
    * `PyError`, `liftSignal`, `LogRecord`, `Logged`
    * `Value`, `Value.toStr`, `Value.toDecimal`, `Value.toInt`
-/

------------------------------------------------------------
-- Exceptions
------------------------------------------------------------

namespace MusicLabel

/- The exceptions of the modelled code, by class. -/
inductive PyError
  | royaltyCalculation (message : String)
  | contract (message : String)
  | decimal (signal : Decimal.Signal)
  | valueError
  | typeError
  | overflowError
  deriving DecidableEq, Repr

/- Results compare by their constructor and payload. -/
instance instDecidableEqExcept
    {ε α : Type} [DecidableEq ε] [DecidableEq α] :
    DecidableEq (Except ε α)
  | .ok a, .ok b => decidable_of_iff (a = b) (by simp)
  | .error e, .error e' => decidable_of_iff (e = e') (by simp)
  | .ok _, .error _ => isFalse (by simp)
  | .error _, .ok _ => isFalse (by simp)

/- A trapped decimal condition raises its exception class. -/
def liftSignal {α : Type} : Except Decimal.Signal α → Except PyError α
  | .ok a => .ok a
  | .error signal => .error (.decimal signal)

@[simp] theorem liftSignal_ok
    {α : Type}
    (a : α) :
    liftSignal (.ok a : Except Decimal.Signal α) = .ok a :=
  rfl

@[simp] theorem liftSignal_error
    {α : Type}
    (signal : Decimal.Signal) :
    liftSignal (.error signal : Except Decimal.Signal α) =
      .error (.decimal signal) :=
  rfl

/- A trapped condition raises; an untrapped result is returned. -/
@[simp] theorem liftSignal_eq_ok
    {α : Type}
    {x : Except Decimal.Signal α}
    {a : α} :
    liftSignal x = .ok a ↔ x = .ok a := by
  cases x <;> simp [liftSignal]

/- A chained computation returns exactly when both of its steps return. -/
theorem bind_eq_ok
    {ε α β : Type}
    {x : Except ε α}
    {f : α → Except ε β}
    {b : β} :
    x.bind f = .ok b ↔ ∃ a, x = .ok a ∧ f a = .ok b := by
  cases x <;> simp [Except.bind]

/- The levels of the records the modelled code logs. -/
inductive LogLevel
  | info
  | warning
  deriving DecidableEq, Repr

/- A record sent to a module logger, with its formatted message. -/
structure LogRecord where
  level : LogLevel
  message : String
  deriving DecidableEq, Repr

/- What a call sends to its logger before it ends, and how it ends. -/
structure Logged (α : Type) where
  log : List LogRecord
  result : Except PyError α

end MusicLabel

------------------------------------------------------------
-- Truncation to Integers
------------------------------------------------------------

namespace MusicLabel

namespace Decimal

/- `Decimal.__int__`: truncation toward zero. -/
def toInt : Decimal → Except PyError Int
  | finite negative coefficient exponent =>
      .ok (signed negative
        (if 0 ≤ exponent then coefficient * 10 ^ exponent.toNat
          else coefficient / 10 ^ (-exponent).toNat))
  | infinity _ => .error .overflowError
  | nan _ _ => .error .valueError

end Decimal

namespace PyFloat

/- `float.__int__`: truncation toward zero. -/
def toInt (x : PyFloat) : Except PyError Int :=
  match x.kind with
  | .finite negative significand exponent =>
      .ok (Decimal.signed negative
        (if 0 ≤ exponent then significand * 2 ^ exponent.toNat
          else significand / 2 ^ (-exponent).toNat))
  | .infinity _ => .error .overflowError
  | .nan => .error .valueError

end PyFloat

end MusicLabel

------------------------------------------------------------
-- Row Values
------------------------------------------------------------

namespace MusicLabel

/-
  A value in a field of a revenue row: what a JSON feed decodes to
  (`None`, booleans, integers, floats, strings), or a `Decimal` a
  caller put there.
-/
inductive Value
  | none
  | bool (b : Bool)
  | int (n : Int)
  | float (x : PyFloat)
  | str (s : String)
  | decimal (d : Decimal)
  deriving DecidableEq

namespace Value

/- `str(v)`. -/
def toStr : Value → Except PyError String
  | none => .ok "None"
  | bool b => .ok (if b then "True" else "False")
  | int n =>
      match Text.intToStr n with
      | some s => .ok s
      | Option.none => .error .valueError
  | float x => .ok x.repr
  | str s => .ok s
  | decimal d => .ok d.toSciString

/- `Decimal(str(v))`. -/
def toDecimal (v : Value) : Except PyError Decimal :=
  v.toStr.bind fun s => liftSignal (Decimal.parse s)

/- `int(v)`. -/
def toInt : Value → Except PyError Int
  | none => .error .typeError
  | bool b => .ok (if b then 1 else 0)
  | int n => .ok n
  | float x => x.toInt
  | str s =>
      match Text.parseInt s with
      | some n => .ok n
      | Option.none => .error .valueError
  | decimal d => d.toInt

end Value

end MusicLabel
