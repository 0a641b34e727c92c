import SqlCompose.Json.Text
import SqlCompose.Value.Basic

/-!
# SqlCompose — the value that a JSON text denotes

The reader takes exactly the texts of the JSON grammar: one value with blanks
around it, numbers without leading zeros, strings without control characters,
no comma behind the last element. A table is read as its members in the order in
which they stand in the text, none of them left out; an integer is read exactly,
a number with a fraction or an exponent as the nearest binary64 number.

A string is read in two steps. First come the codes of sixteen bits that it is
made of, or whole characters where they are not escaped (`readCodes?`); then
codes that only have a meaning together are put together (`pairUp?`). A string
with half a pair denotes no text and is refused.

The reader is what the writer is measured by: see `SqlCompose.Proofs.Json.Roundtrip`.
-/

namespace SqlCompose

namespace Json

/-! ## Strings -/

/-- The value of a hexadecimal digit, in lower or upper case. -/
def hexValue? (c : Char) : Option Nat :=
  (List.range 16).find? fun n => Text.hexDigit n == c.toLower

/-- The number that hexadecimal digits denote. -/
def hexNumber? (digits : List Char) : Option Nat :=
  digits.foldlM (fun n c => (hexValue? c).map (16 * n + ·)) 0

/-- The character that an escape of two characters stands for, by the second of them. -/
def shortEscape? : Char → Option Char
  | '\x22' => some '\x22'
  | '\\' => some '\\'
  | '/' => some '/'
  | 'b' => some '\x08'
  | 'f' => some '\x0c'
  | 'n' => some '\n'
  | 'r' => some '\r'
  | 't' => some '\t'
  | _ => none

/-- The codes of a string up to its closing quote, and what follows the quote. -/
def readCodes? : List Char → Option (List Nat × List Char)
  | [] => none
  | '\x22' :: rest => some ([], rest)
  | '\\' :: 'u' :: a :: b :: c :: d :: rest => do
    let n ← hexNumber? [a, b, c, d]
    let (codes, rest) ← readCodes? rest
    some (n :: codes, rest)
  | '\\' :: c :: rest => do
    let e ← shortEscape? c
    let (codes, rest) ← readCodes? rest
    some (e.toNat :: codes, rest)
  | c :: rest =>
    if c = '\\' ∨ c.toNat < 0x20 then none
    else do
      let (codes, rest) ← readCodes? rest
      some (c.toNat :: codes, rest)

/-- Two codes are the halves of a pair. -/
def isPair (high low : Nat) : Bool :=
  decide (0xD800 ≤ high ∧ high < 0xDC00) && decide (0xDC00 ≤ low ∧ low < 0xE000)

/-- The code of the character beyond the basic plane that a pair stands for. -/
def pairCode (high low : Nat) : Nat := 0x10000 + (high - 0xD800) * 0x400 + (low - 0xDC00)

/-- The characters that codes stand for. -/
def pairUp? : List Nat → Option (List Char)
  | [] => some []
  | n :: rest =>
    if n.isValidChar then (pairUp? rest).map (Char.ofNat n :: ·)
    else match rest with
      | [] => none
      | low :: rest =>
        if isPair n low then (pairUp? rest).map (Char.ofNat (pairCode n low) :: ·) else none

example : pairUp? [0xD83D, 0xDE00, 0x61] = some ['😀', 'a'] := by decide

/-- A string at its opening quote, and what follows it. -/
def readString? : List Char → Option (String × List Char)
  | '\x22' :: rest => do
    let (codes, rest) ← readCodes? rest
    let chars ← pairUp? codes
    some (String.ofList chars, rest)
  | _ => none

/-! ## Numbers -/

/-- One digit or more, and what follows them. -/
def readDigits? (cs : List Char) : Option (List Char × List Char) :=
  if cs.takeWhile Char.isDigit = [] then none
  else some (cs.takeWhile Char.isDigit, cs.dropWhile Char.isDigit)

/-- The digits of the integer part of a number, which has no leading zeros. -/
def readWhole? (cs : List Char) : Option (List Char × List Char) := do
  let (digits, rest) ← readDigits? cs
  if digits.head? = some '0' ∧ digits ≠ ['0'] then none else some (digits, rest)

/-- The digits behind the point of a number, if there is a point. -/
def readFraction? : List Char → Option (List Char × List Char)
  | '.' :: rest => readDigits? rest
  | rest => some ([], rest)

/-- The sign of an exponent, if it has one: whether it is negative, and what follows it. -/
def readSign : List Char → Bool × List Char
  | '-' :: rest => (true, rest)
  | '+' :: rest => (false, rest)
  | rest => (false, rest)

/-- The exponent of a number, if there is one. -/
def readExponent? : List Char → Option (Option Int × List Char)
  | [] => some (none, [])
  | mark :: rest =>
    if mark = 'e' ∨ mark = 'E' then do
      let (negative, rest) := readSign rest
      let (digits, rest) ← readDigits? rest
      let value : Int := Nat.ofDigitChars 10 digits 0
      some (some (if negative then -value else value), rest)
    else some (none, mark :: rest)

/-- The value of a number by its parts. -/
def numberOf (negative : Bool) (whole fraction : List Char) (exponent : Option Int) : Value :=
  if fraction = [] ∧ exponent = none then
    let value : Int := Nat.ofDigitChars 10 whole 0
    .int (if negative then -value else value)
  else
    .float (Binary64.ofDecimal negative (Nat.ofDigitChars 10 (whole ++ fraction) 0)
      (exponent.getD 0 - fraction.length))

/-- A number without its sign, and what follows it. -/
def readMagnitude? (negative : Bool) (cs : List Char) : Option (Value × List Char) := do
  let (whole, rest) ← readWhole? cs
  let (fraction, rest) ← readFraction? rest
  let (exponent, rest) ← readExponent? rest
  some (numberOf negative whole fraction exponent, rest)

/-- A number, and what follows it. -/
def readNumber? : List Char → Option (Value × List Char)
  | '-' :: rest => readMagnitude? true rest
  | cs => readMagnitude? false cs

/-! ## Values -/

/-- A character that may stand between the parts of a text. -/
def isBlank (c : Char) : Bool := c == ' ' || c == '\t' || c == '\n' || c == '\r'

/-- What follows the blanks at the front of a text. -/
def skipBlanks (cs : List Char) : List Char := cs.dropWhile isBlank

/-- The values that are written as words. -/
def words : List (List Char × Value) :=
  [("null".toList, .null), ("true".toList, .bool true), ("false".toList, .bool false)]

/-- A value that is written as a word, and what follows it. -/
def readWord? (cs : List Char) : Option (Value × List Char) :=
  words.findSome? fun word =>
    if word.1.isPrefixOf cs then some (word.2, cs.drop word.1.length) else none

/-- A value that is no row and no table, and what follows it. -/
def readAtom? (cs : List Char) : Option (Value × List Char) :=
  if cs.head? = some '\x22' then (readString? cs).map fun read => (.text read.1, read.2)
  else (readWord? cs).orElse fun _ => readNumber? cs

mutual

/-- A value, and what follows it. -/
def readValue? : Nat → List Char → Option (Value × List Char)
  | 0, _ => none
  | steps + 1, cs =>
    match skipBlanks cs with
    | '[' :: rest =>
      match skipBlanks rest with
      | ']' :: rest => some (.list [], rest)
      | rest => (readItems? steps rest).map fun read => (.list read.1, read.2)
    | '\x7b' :: rest =>
      match skipBlanks rest with
      | '\x7d' :: rest => some (.dict [], rest)
      | rest => (readMembers? steps rest).map fun read => (.dict read.1, read.2)
    | rest => readAtom? rest

/-- The elements of a row up to its closing bracket, and what follows the bracket. -/
def readItems? : Nat → List Char → Option (List Value × List Char)
  | 0, _ => none
  | steps + 1, cs =>
    match readValue? steps cs with
    | none => none
    | some (v, rest) =>
      match skipBlanks rest with
      | ',' :: rest => (readItems? steps rest).map fun read => (v :: read.1, read.2)
      | ']' :: rest => some ([v], rest)
      | _ => none

/-- The members of a table up to its closing brace, and what follows the brace. -/
def readMembers? : Nat → List Char → Option (List (Value × Value) × List Char)
  | 0, _ => none
  | steps + 1, cs =>
    match readString? (skipBlanks cs) with
    | none => none
    | some (name, rest) =>
      match skipBlanks rest with
      | ':' :: rest =>
        match readValue? steps rest with
        | none => none
        | some (v, rest) =>
          match skipBlanks rest with
          | ',' :: rest =>
            (readMembers? steps rest).map fun read => ((.text name, v) :: read.1, read.2)
          | '\x7d' :: rest => some ([(.text name, v)], rest)
          | _ => none
      | _ => none

end

/-- What opens behind a bracket is read as elements unless it closes the bracket at once. -/
theorem readValue?_bracket {cs rest : List Char} {c : Char} (h : skipBlanks cs = c :: rest)
    (hOpen : c ≠ ']') (steps : Nat) :
    readValue? (steps + 1) ('[' :: cs) =
      (readItems? steps (c :: rest)).map fun read => (.list read.1, read.2) := by
  have hBracket : skipBlanks ('[' :: cs) = '[' :: cs := rfl
  simp only [readValue?, hBracket, h]
  split
  · rename_i hClosed
    exact absurd (List.cons.inj hClosed).1 hOpen
  · rfl

/-- What opens behind a brace is read as members unless it closes the brace at once. -/
theorem readValue?_brace {cs rest : List Char} {c : Char} (h : skipBlanks cs = c :: rest)
    (hOpen : c ≠ '\x7d') (steps : Nat) :
    readValue? (steps + 1) ('\x7b' :: cs) =
      (readMembers? steps (c :: rest)).map fun read => (.dict read.1, read.2) := by
  have hBrace : skipBlanks ('\x7b' :: cs) = '\x7b' :: cs := rfl
  simp only [readValue?, hBrace, h]
  split
  · rename_i hClosed
    exact absurd (List.cons.inj hClosed).1 hOpen
  · rfl

/-- The value that a text denotes. Every second step takes at least one character, so twice the
length of the text bounds the steps. -/
def read? (s : String) : Option Value :=
  match readValue? (2 * s.length) s.toList with
  | some (v, rest) => if skipBlanks rest = [] then some v else none
  | none => none

example : read? " [1, -20 ,\"a\\u00E9\", \x7b\"b\":null, \"b\": [true]\x7d ]" =
    some (.list [.int 1, .int (-20), .text "aé",
      .dict [(.text "b", .null), (.text "b", .list [.bool true])]]) := by cbv

end Json

end SqlCompose
