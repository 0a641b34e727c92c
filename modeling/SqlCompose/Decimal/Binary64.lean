/-!
# SqlCompose — binary64 numbers

A number of the binary64 format is its 64 bits. A finite one is read as the
exact fraction `± mantissa · 2 ^ exponent`, and everything that is said about
numbers here (comparison with integers, truncation, text) goes through that
fraction, in exact integer arithmetic.
-/

namespace SqlCompose

/-- A binary64 number: a sign bit, eleven exponent bits, fifty-two fraction bits. -/
structure Binary64 where
  bits : UInt64
  deriving DecidableEq, Inhabited

namespace Binary64

/-- The sign bit; it is also set for a negative zero. -/
def isNegative (x : Binary64) : Bool := x.bits >>> 63 == 1

/-- The exponent bits as a natural number. -/
def exponentField (x : Binary64) : Nat := ((x.bits >>> 52) &&& 0x7FF).toNat

/-- The fraction bits as a natural number. -/
def fractionField (x : Binary64) : Nat := (x.bits &&& 0xFFFFFFFFFFFFF).toNat

/-- Neither a number nor an infinity. -/
def isNaN (x : Binary64) : Bool := x.exponentField == 0x7FF && x.fractionField != 0

/-- One of the two infinities. -/
def isInfinite (x : Binary64) : Bool := x.exponentField == 0x7FF && x.fractionField == 0

/-- An integer or a fraction, as opposed to an infinity or no number. -/
def isFinite (x : Binary64) : Bool := x.exponentField != 0x7FF

/-- The integer `m` of the value `± m · 2 ^ q` of a finite number. -/
def mantissa (x : Binary64) : Nat :=
  if x.exponentField = 0 then x.fractionField else 0x10000000000000 + x.fractionField

/-- The integer `q` of the value `± m · 2 ^ q` of a finite number. -/
def exponent (x : Binary64) : Int := (max x.exponentField 1 : Nat) - (1075 : Int)

/-- The neighbour below is half as far away as the neighbour above: this is so just above a
power of two, as long as the exponent can still shrink. -/
def narrowBelow (x : Binary64) : Bool := x.fractionField == 0 && decide (1 < x.exponentField)

/-- Positive or negative zero. -/
def isZero (x : Binary64) : Bool := x.isFinite && x.mantissa == 0

/-! ## The value as an exact fraction -/

/-- The numerator of the magnitude of a finite number. -/
def numerator (x : Binary64) : Nat := x.mantissa * Nat.pow 2 x.exponent.toNat

/-- The denominator of the magnitude of a finite number, a power of two. -/
def denominator (x : Binary64) : Nat := Nat.pow 2 (-x.exponent).toNat

/-- The numerator with the sign of the number. -/
def signedNumerator (x : Binary64) : Int :=
  if x.isNegative then -(x.numerator : Int) else (x.numerator : Int)

/-- A finite number without its fractional part. -/
def truncate (x : Binary64) : Int := x.signedNumerator.tdiv x.denominator

/-- The largest integer that is not above a finite number. -/
def floor (x : Binary64) : Int := x.signedNumerator.fdiv x.denominator

/-- Equality of values: zero has one value for both signs, and what is no number equals
nothing. -/
def sameValue (x y : Binary64) : Bool :=
  if x.isNaN || y.isNaN then false
  else if x.isZero && y.isZero then true
  else x.bits == y.bits

/-- The number is exactly the integer. -/
def equalsInt (x : Binary64) (n : Int) : Bool :=
  x.isFinite && x.signedNumerator == n * (x.denominator : Int)

/-- The number is at least the integer. -/
def atLeastInt (x : Binary64) (n : Int) : Bool :=
  if x.isNaN then false
  else if x.isInfinite then !x.isNegative
  else decide (n * (x.denominator : Int) ≤ x.signedNumerator)

/-- The number is at most the integer. -/
def atMostInt (x : Binary64) (n : Int) : Bool :=
  if x.isNaN then false
  else if x.isInfinite then x.isNegative
  else decide (x.signedNumerator ≤ n * (x.denominator : Int))

/-- A number that is not zero; what is no number counts as nonzero too. -/
def isTrue (x : Binary64) : Bool := !x.isZero

/-! ## Numbers from decimals -/

/-- The infinity of a sign. -/
def infinity (negative : Bool) : Binary64 :=
  ⟨if negative then 0xFFF0000000000000 else 0x7FF0000000000000⟩

/-- The number with its sign bit set. -/
def negated (x : Binary64) : Binary64 := ⟨x.bits ||| 0x8000000000000000⟩

/-- The binary64 number nearest to `± digits · 10 ^ exponent`, ties to even. Exponents far
outside the range of the format are decided before any power of ten is computed. -/
def ofDecimal (negative : Bool) (digits : Nat) (exponent : Int) : Binary64 :=
  let size : Int := (Nat.toDigits 10 digits).length
  let magnitude : Binary64 :=
    if digits = 0 then ⟨0⟩
    else if 400 < size + exponent then infinity false
    else if size + exponent < -400 then ⟨0⟩
    else ⟨(Float.ofScientific digits (decide (exponent < 0)) exponent.natAbs).toBits⟩
  if negative then magnitude.negated else magnitude

/-- The binary64 number nearest to an integer; an infinity if the integer is too large. -/
def ofInt (n : Int) : Binary64 := ofDecimal (decide (n < 0)) n.natAbs 0

/-- The binary64 number nearest to `n · 2 ^ -places`. -/
def ofDyadic (n : Int) (places : Nat) : Binary64 :=
  ofDecimal (decide (n < 0)) (n.natAbs * Nat.pow 5 places) (-places)

/-- What is left of a finite number without its integer part, times a factor, rounded to the
nearest number of the format. -/
def scaledFraction (x : Binary64) (factor : Int) : Binary64 :=
  ofDyadic (x.signedNumerator.tmod x.denominator * factor) (-x.exponent).toNat

end Binary64

end SqlCompose
