import SqlCompose.Decimal.Digits

/-!
# SqlCompose — how chosen digits are laid out

A number is written positionally while the exponent of its leading digit stays
in a window, and with a signed exponent of at least two digits outside it. The
window and the treatment of an empty fraction are one record, `Layout`; the
values that a statement or a log line shows use `Layout.natural`.
-/

namespace SqlCompose

/-- The decisions that do not change the digits of a number but only their layout. -/
structure Layout where
  /-- The least exponent of the leading digit that is written positionally. -/
  plainFrom : Int
  /-- The exponents from here on are no longer written positionally. -/
  plainBelow : Int
  /-- What follows an integer that is written positionally. -/
  afterInteger : String
  /-- What stands between a single digit and the mark of the exponent. -/
  afterDigit : String

/-- Positional from `10 ^ -4` to below `10 ^ 16`, and an integer is marked by `.0`. -/
def Layout.natural : Layout where
  plainFrom := -4
  plainBelow := 16
  afterInteger := ".0"
  afterDigit := ""

namespace Decimal

/-- The digits before and after a decimal point at the given place, with the zeros that the
place asks for. -/
def split (digits : List Char) (point : Int) : List Char × List Char :=
  if point ≤ 0 then (['0'], List.replicate (-point).toNat '0' ++ digits)
  else if (digits.length : Int) ≤ point then
    (digits ++ List.replicate (point.toNat - digits.length) '0', [])
  else (digits.take point.toNat, digits.drop point.toNat)

/-- An integer part and a fraction, which is left out with its point if it is empty. -/
def joinParts (whole fraction : List Char) (ifInteger : String) : String :=
  if fraction = [] then String.ofList whole ++ ifInteger
  else String.ofList whole ++ "." ++ String.ofList fraction

/-- The exponent of a number: its mark, its sign, and at least two digits. -/
def exponentText (exponent : Int) : String :=
  let digits := toString exponent.natAbs
  "e" ++ (if exponent < 0 then "-" else "+") ++ (if digits.length < 2 then "0" else "") ++ digits

/-- Digits with the point behind the first of them, and an exponent. -/
def scientificText (digits : List Char) (point : Int) (afterDigit : String) : String :=
  joinParts (digits.take 1) (digits.drop 1) afterDigit ++ exponentText (point - 1)

/-- Digits laid out by the decisions of a record. -/
def layoutText (layout : Layout) (digits : List Char) (point : Int) : String :=
  if layout.plainFrom ≤ point - 1 ∧ point - 1 < layout.plainBelow then
    joinParts (split digits point).1 (split digits point).2 layout.afterInteger
  else scientificText digits point layout.afterDigit

/-- Digits without the zeros at their end, of which the first is kept. -/
def trimmed (digits : List Char) : List Char :=
  digits.take 1 ++ ((digits.drop 1).reverse.dropWhile (· == '0')).reverse

end Decimal

namespace Binary64

/-- A text for the magnitude of a number, with its sign in front; the two values that have no
digits are written as words. -/
def signedText (x : Binary64) (magnitude : String) : String :=
  if x.isNaN then "nan"
  else (if x.isNegative then "-" else "") ++ if x.isInfinite then "inf" else magnitude

/-- The digits of a finite number and the place of its point, for a number of significant
digits; zero has that many zeros. -/
def significant (x : Binary64) (count : Nat) : List Char × Int :=
  if x.isZero then (List.replicate count '0', 1)
  else
    let d := Decimal.rounded x.numerator x.denominator count
    (d.digits, d.point)

/-- The text of a number: the fewest digits that identify it, in the natural layout. -/
def text (x : Binary64) : String :=
  x.signedText <|
    if x.isZero then "0.0"
    else
      let d := Decimal.shortest x
      Decimal.layoutText .natural d.digits d.point

/-- A number with a fixed count of digits after the point; `keepPoint` writes the point even
if no digit follows it. -/
def fixedText (x : Binary64) (count : Nat) (keepPoint : Bool) : String :=
  let d := Decimal.places x.numerator x.denominator count
  let parts := Decimal.split d.digits d.point
  x.signedText (Decimal.joinParts parts.1 parts.2 (if keepPoint then "." else ""))

/-- A number with one digit before the point, a fixed count after it, and an exponent. -/
def exponentialText (x : Binary64) (count : Nat) (keepPoint : Bool) : String :=
  let digits := x.significant (count + 1)
  x.signedText (Decimal.scientificText digits.1 digits.2 (if keepPoint then "." else ""))

/-- A number with a count of significant digits, positional or with an exponent, whichever the
count allows; zeros at the end are written only with `keepPoint`. -/
def generalText (x : Binary64) (count : Nat) (keepPoint : Bool) : String :=
  let digits := x.significant (max count 1)
  let layout : Layout :=
    { plainFrom := -4
      plainBelow := (max count 1 : Nat)
      afterInteger := if keepPoint then "." else ""
      afterDigit := if keepPoint then "." else "" }
  let kept := if keepPoint then digits.1 else Decimal.trimmed digits.1
  x.signedText (Decimal.layoutText layout kept digits.2)

end Binary64

end SqlCompose
