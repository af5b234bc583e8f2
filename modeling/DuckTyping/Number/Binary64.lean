set_option autoImplicit false

/-!
# Binary64 numbers as ratios

A finite binary64 number is an integer times a power of two. This module takes such a number apart
and, the other way round, finds the number nearest to a ratio of integers: of two equally near ones
the one with an even mantissa, and infinity beyond the largest. All of it is exact integer
arithmetic on the bits.
-/

namespace DuckTyping.Number

/-- The sign bit is set. -/
def isNegative (x : Float) : Bool := x.toBits.toNat / Nat.pow 2 63 == 1

/-- The biased exponent. -/
def exponentField (x : Float) : Nat := x.toBits.toNat / Nat.pow 2 52 % Nat.pow 2 11

/-- The bits below the exponent. -/
def fractionField (x : Float) : Nat := x.toBits.toNat % Nat.pow 2 52

/-- Neither infinite nor a NaN. -/
def isFinite (x : Float) : Bool := exponentField x != 2047

def isNaN (x : Float) : Bool := exponentField x == 2047 && fractionField x != 0

/-- The magnitude of a finite number is `mantissa * 2 ^ power`. -/
structure Scaled where
  mantissa : Nat
  power : Int
  deriving DecidableEq, Repr, Inhabited

/-- The magnitude of a finite number: normal numbers have an implicit leading bit. -/
def scaled (x : Float) : Scaled :=
  if exponentField x = 0 then ⟨fractionField x, -1074⟩
  else ⟨Nat.pow 2 52 + fractionField x, (exponentField x : Int) - 1075⟩

/-- The numerator of `mantissa * 2 ^ power` over `Scaled.denominator`. -/
def Scaled.numerator (s : Scaled) : Nat := s.mantissa * Nat.pow 2 s.power.toNat

/-- A power of two, one unless the power is negative. -/
def Scaled.denominator (s : Scaled) : Nat := Nat.pow 2 (-s.power).toNat

/-- The quotient rounded to the nearest integer, ties to the even one. -/
def roundHalfEven (num den : Nat) : Nat :=
  let q := num / den
  let r := num % den
  if den < 2 * r ∨ (2 * r = den ∧ q % 2 = 1) then q + 1 else q

/-- The power of two that gives `num / den` a mantissa of 53 bits, or the least there is. -/
def mantissaPower (num den : Nat) : Int :=
  let b : Int := (num.log2 : Int) - den.log2
  let reaches := den * Nat.pow 2 b.toNat ≤ num * Nat.pow 2 (-b).toNat
  max (if reaches then b - 52 else b - 53) (-1074)

/-- The bits of the positive number nearest to `num / den`.

Adding the mantissa, leading bit included, to the exponent below it carries by itself when the
rounding reaches the next power of two. -/
def nearestBits (num den : Nat) : Nat :=
  if num = 0 then 0
  else
    let p := mantissaPower num den
    let mantissa := roundHalfEven (num * Nat.pow 2 (-p).toNat) (den * Nat.pow 2 p.toNat)
    min (2047 * Nat.pow 2 52) ((p + 1074).toNat * Nat.pow 2 52 + mantissa)

/-- The number nearest to `num / den`, with a sign. -/
def nearest (negative : Bool) (num den : Nat) : Float :=
  Float.ofBits (UInt64.ofNat (nearestBits num den + (if negative then Nat.pow 2 63 else 0)))

/-- The number nearest to an integer. -/
def ofInteger (n : Int) : Float := nearest (n < 0) n.natAbs 1

/-- Positive or negative infinity. -/
def infinity (negative : Bool) : Float :=
  Float.ofBits (UInt64.ofNat (2047 * Nat.pow 2 52 + (if negative then Nat.pow 2 63 else 0)))

/-- A quiet NaN. -/
def notANumber : Float := Float.ofBits (UInt64.ofNat (2047 * Nat.pow 2 52 + Nat.pow 2 51))

/-- The integer that a finite number is, if its fraction is zero. -/
def integral? (x : Float) : Option Int :=
  if isFinite x then
    let s := scaled x
    if s.numerator % s.denominator = 0 then
      let n : Int := (s.numerator / s.denominator : Nat)
      some (if isNegative x then -n else n)
    else none
  else none

end DuckTyping.Number
