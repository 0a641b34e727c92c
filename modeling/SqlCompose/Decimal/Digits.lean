import SqlCompose.Decimal.Binary64

/-!
# SqlCompose — which decimal digits a number is written with

Three choices of digits for a positive fraction, all in exact arithmetic:

* `Decimal.shortest`: the fewest digits that read back to the same binary64
  number, and of those the nearest to it;
* `Decimal.rounded`: a given number of significant digits;
* `Decimal.places`: a given number of digits after the point.

Where two candidates are equally near, the even one is taken.
-/

namespace SqlCompose

/-- The decimal `coefficient · 10 ^ exponent`. -/
structure Decimal where
  coefficient : Nat
  exponent : Int
  deriving DecidableEq, Inhabited

namespace Decimal

/-- The quotient rounded to the nearest integer, ties to even. -/
def roundedQuotient (num den : Nat) : Nat :=
  let quotient := num / den
  let twice := 2 * (num % den)
  if twice < den then quotient
  else if den < twice then quotient + 1
  else if quotient % 2 = 0 then quotient
  else quotient + 1

/-- How many steps a fraction below one has to be multiplied by ten to reach one. -/
def leadingZeros : Nat → Nat → Nat → Nat
  | 0, _, _ => 0
  | fuel + 1, num, den => if den ≤ num then 0 else leadingZeros fuel (num * 10) den + 1

/-- The least `k` with `num / den < 10 ^ k`, for a positive fraction of the binary64 range. -/
def pointPosition (num den : Nat) : Int :=
  if den ≤ num then ((Nat.toDigits 10 (num / den)).length : Nat)
  else 1 - (leadingZeros 400 num den : Nat)

/-- The fraction divided by `10 ^ unit`, as numerator and denominator. -/
def scaled (num den : Nat) (unit : Int) : Nat × Nat :=
  (num * Nat.pow 10 (-unit).toNat, den * Nat.pow 10 unit.toNat)

/-- The fraction rounded to a multiple of `10 ^ unit`; the result counts the multiples. -/
def roundedTo (num den : Nat) (unit : Int) : Nat :=
  roundedQuotient (scaled num den unit).1 (scaled num den unit).2

/-- A positive fraction with a given number of significant digits. A round-up to the next
power of ten is written with that many digits again. -/
def rounded (num den : Nat) (digits : Nat) : Decimal :=
  let unit := pointPosition num den - digits
  let count := roundedTo num den unit
  if count = Nat.pow 10 digits then ⟨Nat.pow 10 (digits - 1), unit + 1⟩ else ⟨count, unit⟩

/-- A fraction with a given number of digits after the point. -/
def places (num den : Nat) (digits : Nat) : Decimal := ⟨roundedTo num den (-digits), -digits⟩

/-- Zeros at the end of the coefficient are moved into the exponent. -/
def withoutTrailingZeros : Nat → Decimal → Decimal
  | 0, d => d
  | fuel + 1, d =>
    if d.coefficient ≠ 0 ∧ d.coefficient % 10 = 0 then
      withoutTrailingZeros fuel ⟨d.coefficient / 10, d.exponent + 1⟩
    else d

/-- The decimal lies among the reals that round to the finite number `x`: between the halfway
points to its two neighbours, the ends included exactly if the mantissa is even. -/
def readsBack (x : Binary64) (d : Decimal) : Bool :=
  let point := d.coefficient * Nat.pow 10 d.exponent.toNat * 4 * x.denominator
  let unit := Nat.pow 2 x.exponent.toNat * Nat.pow 10 (-d.exponent).toNat
  let low := (4 * x.mantissa - if x.narrowBelow then 1 else 2) * unit
  let high := (4 * x.mantissa + 2) * unit
  if x.mantissa % 2 = 0 then decide (low ≤ point) && decide (point ≤ high)
  else decide (low < point) && decide (point < high)

/-- The nearest decimal of a given number of digits that reads back, if there is one: one of
the two neighbours of the number on the grid of that many digits. -/
def shortestOn? (x : Binary64) (digits : Nat) : Option Decimal :=
  let unit := pointPosition x.numerator x.denominator - digits
  let fraction := scaled x.numerator x.denominator unit
  let below : Decimal := ⟨fraction.1 / fraction.2, unit⟩
  let above : Decimal := ⟨fraction.1 / fraction.2 + 1, unit⟩
  match readsBack x below, readsBack x above with
  | true, true => some ⟨roundedQuotient fraction.1 fraction.2, unit⟩
  | true, false => some below
  | false, true => some above
  | false, false => none

/-- The fewest digits that read back to a positive finite number. Seventeen digits are always
enough; past them the number itself would be written. -/
def shortest (x : Binary64) : Decimal :=
  let chosen := ((List.range 17).findSome? fun n => shortestOn? x (n + 1)).getD
    (rounded x.numerator x.denominator 17)
  withoutTrailingZeros 400 chosen

/-- The digits of the coefficient. -/
def digits (d : Decimal) : List Char := Nat.toDigits 10 d.coefficient

/-- The place of the decimal point, counted from the front of the digits. -/
def point (d : Decimal) : Int := (d.digits.length : Nat) + d.exponent

end Decimal

end SqlCompose
