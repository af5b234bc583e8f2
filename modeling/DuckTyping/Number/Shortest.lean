import DuckTyping.Number.Binary64
import DuckTyping.Number.Digits

set_option autoImplicit false

/-!
# Shortest decimal text of a binary64 number

The decimals that read back to a number fill an interval around it, ends included when the mantissa
is even. The text has the fewest digits of any decimal in that interval; of the two candidates with
that many digits the nearer one is written, and the upper one on a tie. There is never an exponent,
and no point in a whole number.
-/

namespace DuckTyping.Number

/-- The number `digits * 10 ^ exponent`. -/
structure Decimal where
  digits : Nat
  exponent : Int
  deriving DecidableEq, Repr, Inhabited

/-- The decimals that round to a number: those between `low / unit` and `high / unit`, around
`value / unit`. -/
structure RoundingInterval where
  low : Nat
  value : Nat
  high : Nat
  unit : Nat
  closed : Bool
  deriving DecidableEq, Repr, Inhabited

/-- The interval of a finite number. Below a power of two the next number is only half as far. -/
def roundingInterval (x : Float) : RoundingInterval :=
  let s := scaled x
  let factor := Nat.pow 2 s.power.toNat
  let below := if fractionField x = 0 ∧ 1 < exponentField x then 1 else 2
  { low := (4 * s.mantissa - below) * factor
    value := 4 * s.mantissa * factor
    high := (4 * s.mantissa + 2) * factor
    unit := 4 * s.denominator
    closed := s.mantissa % 2 == 0 }

namespace RoundingInterval

/-- The interval contains `num / den`. -/
def contains (i : RoundingInterval) (num den : Nat) : Bool :=
  if i.closed then i.low * den ≤ num * i.unit && num * i.unit ≤ i.high * den
  else i.low * den < num * i.unit && num * i.unit < i.high * den

/-- The exponent of the leading decimal digit of a positive value. -/
def leadingExponent (i : RoundingInterval) : Int :=
  if i.unit ≤ i.value then ((Nat.toDigits 10 (i.value / i.unit)).length : Int) - 1
  else
    let n := (Nat.toDigits 10 (i.unit / i.value)).length
    if i.unit ≤ i.value * Nat.pow 10 (n - 1) then -((n : Int) - 1) else -(n : Int)

/-- The decimal next to the value, among the multiples of `10 ^ exponent`, that lies in the
interval. -/
def onGrid? (i : RoundingInterval) (exponent : Int) : Option Decimal :=
  let up := Nat.pow 10 exponent.toNat
  let down := Nat.pow 10 (-exponent).toNat
  let floor := i.value * down / (i.unit * up)
  let lower := i.contains (floor * up) down
  let upper := i.contains ((floor + 1) * up) down
  let nearerBelow := 2 * (i.value * down) < (2 * floor + 1) * (i.unit * up)
  if lower && (nearerBelow || !upper) then some ⟨floor, exponent⟩
  else if upper then some ⟨floor + 1, exponent⟩
  else none

/-- The decimal on the coarsest grid that has one in the interval, from `10 ^ exponent` downwards;
the whole part of the value when `fuel` grids hold none. -/
def coarsestFrom (i : RoundingInterval) (exponent : Int) : Nat → Decimal
  | 0 => ⟨i.value / i.unit, 0⟩
  | fuel + 1 =>
    match i.onGrid? exponent with
    | some d => d
    | none => coarsestFrom i (exponent - 1) fuel

/-- The decimal of fewest digits. The first to try is the power of ten above the value; seventeen
digits always suffice. -/
def shortest (i : RoundingInterval) : Decimal := i.coarsestFrom (i.leadingExponent + 1) 18

end RoundingInterval

/-- Positional notation, with a point only before a fraction. -/
def Decimal.render (d : Decimal) : List Char :=
  if 0 ≤ d.exponent then
    Nat.toDigits 10 d.digits ++ List.replicate d.exponent.toNat '0'
  else
    let places := (-d.exponent).toNat
    let digits := renderPadded (places + 1) d.digits
    digits.take (digits.length - places) ++ '.' :: digits.drop (digits.length - places)

/-- The text of a binary64 number. -/
def renderFloat (x : Float) : List Char :=
  if isNaN x then ['N', 'a', 'N']
  else
    let sign := if isNegative x then ['-'] else []
    if !isFinite x then sign ++ ['i', 'n', 'f']
    else if (scaled x).mantissa = 0 then sign ++ ['0']
    else sign ++ (roundingInterval x).shortest.render

end DuckTyping.Number
