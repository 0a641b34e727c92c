import SqlCompose.Logged
import SqlCompose.Value.Equality

/-!
# SqlCompose — message templates

A message with arguments is a template: literal text and directives. A directive
is a percent sign followed by an optional key in parentheses, flags, a width, a
precision, a length letter without meaning, and a conversion character.

A template is first taken apart (`Template.pieces`), which never fails, and then
filled in (`Template.fill`), which goes from left to right and reports the first
thing that does not fit. Arguments are either a row that has to be used up
exactly, or a dictionary that keys are looked up in.
-/

namespace SqlCompose

namespace Template

/-! ## The parts of a template -/

/-- The key of a directive. -/
inductive Key where
  | absent
  | named (key : String)
  /-- The closing parenthesis is missing. -/
  | unclosed
  deriving DecidableEq

/-- A width or a precision. -/
inductive Amount where
  | absent
  | fixed (n : Nat)
  /-- The next argument gives it. -/
  | fromArgument
  deriving DecidableEq

/-- The flags of a directive. -/
structure Flags where
  left : Bool := false
  sign : Bool := false
  blank : Bool := false
  alternate : Bool := false
  zero : Bool := false
  deriving DecidableEq

/-- A directive. -/
structure Directive where
  key : Key
  flags : Flags
  width : Amount
  precision : Amount
  /-- The conversion character, if the template does not end before it. -/
  conversion : Option Char
  /-- The place of the conversion character in the template. -/
  index : Nat
  deriving DecidableEq

/-- A part of a template. -/
inductive Piece where
  | literal (c : Char)
  | directive (d : Directive)
  deriving DecidableEq

/-- A flag character taken into account. -/
def Flags.add? (flags : Flags) : Char → Option Flags
  | '-' => some { flags with left := true }
  | '+' => some { flags with sign := true }
  | ' ' => some { flags with blank := true }
  | '#' => some { flags with alternate := true }
  | '0' => some { flags with zero := true }
  | _ => none

/-- Flags at the front of a text, and what follows them. -/
def readFlags (flags : Flags) : List Char → Flags × List Char
  | [] => (flags, [])
  | c :: rest => match flags.add? c with
    | some more => readFlags more rest
    | none => (flags, c :: rest)

/-- A key behind its opening parenthesis: its characters up to the parenthesis that closes it,
inner parentheses being balanced, and what follows. -/
def readKey : Nat → List Char → Option (List Char × List Char)
  | _, [] => none
  | depth, ')' :: rest =>
    match depth with
    | 0 => some ([], rest)
    | inner + 1 => (readKey inner rest).map fun read => (')' :: read.1, read.2)
  | depth, '(' :: rest => (readKey (depth + 1) rest).map fun read => ('(' :: read.1, read.2)
  | depth, c :: rest => (readKey depth rest).map fun read => (c :: read.1, read.2)

/-- A width at the front of a text: an asterisk, digits, or nothing. -/
def readAmount : List Char → Amount × List Char
  | '*' :: rest => (.fromArgument, rest)
  | source =>
    let digits := source.takeWhile Char.isDigit
    if digits = [] then (.absent, source)
    else (.fixed (Nat.ofDigitChars 10 digits 0), source.dropWhile Char.isDigit)

/-- A precision at the front of a text: a point followed by an asterisk or by digits, which may be
missing. -/
def readPrecision : List Char → Amount × List Char
  | '.' :: rest => match readAmount rest with
    | (.absent, after) => (.fixed 0, after)
    | read => read
  | source => (.absent, source)

/-- A length letter at the front of a text is left out. -/
def skipLength : List Char → List Char
  | c :: rest => if c = 'h' ∨ c = 'l' ∨ c = 'L' then rest else c :: rest
  | [] => []

/-- The optional key of a directive, and what follows it. -/
def readKeyPart : List Char → Key × List Char
  | '(' :: rest => match readKey 0 rest with
    | some read => (.named (String.ofList read.1), read.2)
    | none => (.unclosed, [])
  | source => (.absent, source)

/-- A directive behind its percent sign, and what follows it. Places are counted back from the
length of the whole template. -/
def readDirective (total : Nat) (source : List Char) : Directive × List Char :=
  let key := readKeyPart source
  let flags := readFlags {} key.2
  let width := readAmount flags.2
  let precision := readPrecision width.2
  let rest := skipLength precision.2
  ({ key := key.1
     flags := flags.1
     width := width.1
     precision := precision.1
     conversion := rest.head?
     index := total - rest.length },
   rest.drop 1)

/-- The parts of a template of the given length. The bound on the steps is the length: every step
takes at least one character. -/
def piecesFrom (total : Nat) : Nat → List Char → List Piece
  | 0, _ => []
  | _ + 1, [] => []
  | steps + 1, '%' :: '%' :: rest => .literal '%' :: piecesFrom total steps rest
  | steps + 1, '%' :: rest =>
    let read := readDirective total rest
    .directive read.1 :: piecesFrom total steps read.2
  | steps + 1, c :: rest => .literal c :: piecesFrom total steps rest

/-- The parts of a template. -/
def pieces (template : String) : List Piece :=
  piecesFrom template.length template.length template.toList

/-! ## Arguments -/

/-- The arguments that are left for the directives to come. -/
structure Arguments where
  /-- The dictionary that keys are looked up in, if there is one. -/
  mapping : Option (List (Value × Value))
  /-- The values that directives without a key take, one each. -/
  pending : List Value

/-- The arguments of a message: a single dictionary with entries stands for its entries. -/
def Arguments.ofList : List Value → Arguments
  | [.dict (entry :: entries)] => ⟨some (entry :: entries), [.dict (entry :: entries)]⟩
  | args => ⟨none, args⟩

/-- The next argument, and the arguments after it. -/
def Arguments.next (args : Arguments) : Except Fault (Value × Arguments) :=
  match args.pending with
  | v :: rest => .ok (v, { args with pending := rest })
  | [] => .error .tooFewArguments

/-- The arguments for a directive with a key: the value under the key alone. -/
def Arguments.select (args : Arguments) : Key → Except Fault Arguments
  | .absent => .ok args
  | key => match args.mapping with
    | none => .error .mappingRequired
    | some entries => match key with
      | .named name => match Value.lookup? (.text name) entries with
        | some v => .ok { args with pending := [v] }
        | none => .error (.missingKey name)
      | _ => .error .incompleteKey

/-- The largest width that is accepted. -/
def largestWidth : Nat := 0x7FFFFFFFFFFFFFFF

/-- The largest precision that is accepted. -/
def largestPrecision : Nat := 0x7FFFFFFF

/-- The width of a directive, which may be an argument; a negative one asks for padding on the
right. -/
def takeWidth (args : Arguments) (flags : Flags) :
    Amount → Except Fault (Option Nat × Flags × Arguments)
  | .absent => .ok (none, flags, args)
  | .fixed n => if largestWidth < n then .error .widthTooBig else .ok (some n, flags, args)
  | .fromArgument => match args.next with
    | .error fault => .error fault
    | .ok (v, rest) => match v.int? with
      | none => .error .widthNotInteger
      | some n =>
        if largestWidth < n.natAbs then .error .widthPastWord
        else if n < 0 then .ok (some n.natAbs, { flags with left := true }, rest)
        else .ok (some n.natAbs, flags, rest)

/-- The precision of a directive, which may be an argument; a negative one counts as zero. -/
def takePrecision (args : Arguments) : Amount → Except Fault (Option Nat × Arguments)
  | .absent => .ok (none, args)
  | .fixed n => if largestPrecision < n then .error .precisionTooBig else .ok (some n, args)
  | .fromArgument => match args.next with
    | .error fault => .error fault
    | .ok (v, rest) => match v.int? with
      | none => .error .widthNotInteger
      | some n =>
        if largestPrecision < n.natAbs then .error .precisionPastWord
        else .ok (some n.toNat, rest)

/-! ## Conversions -/

/-- A directive with its amounts resolved. -/
structure Conversion where
  letter : Char
  flags : Flags
  width : Option Nat
  precision : Option Nat
  index : Nat

/-- A text of spaces or zeros. -/
def padding (fill : Char) (count : Nat) : String := String.ofList (List.replicate count fill)

/-- What a conversion yields before it is put into its field. -/
structure Written where
  /-- The sign and the mark of the base of a number. -/
  front : String := ""
  body : String
  /-- Numbers may be filled with zeros, behind what stands in front. -/
  isNumber : Bool := false

/-- More places than this do not fit into memory. -/
def largestField : Nat := 0x8000000

/-- What a conversion yields, in its field: padded on the right, with zeros, or on the left. -/
def field (c : Conversion) (w : Written) : Except Fault String :=
  let missing := c.width.getD 0 - (w.front.length + w.body.length)
  if largestField < missing then .error .fieldTooLarge
  else if c.flags.left then .ok (w.front ++ w.body ++ padding ' ' missing)
  else if w.isNumber && c.flags.zero then .ok (w.front ++ padding '0' missing ++ w.body)
  else .ok (padding ' ' missing ++ w.front ++ w.body)

/-- A text cut to the precision. -/
def cut (c : Conversion) (s : String) : Written where
  body := match c.precision with
    | some n => String.ofList (s.toList.take n)
    | none => s

/-- The sign in front of a number. -/
def signText (flags : Flags) (negative : Bool) : String :=
  if negative then "-" else if flags.sign then "+" else if flags.blank then " " else ""

/-- A number: its sign, the mark of its base, and its digits. -/
def numeral (flags : Flags) (negative : Bool) (mark digits : String) : Written where
  front := signText flags negative ++ mark
  body := digits
  isNumber := true

/-- The digits of a number in a base, at least as many as the precision asks for. -/
def baseDigits (base : Nat) (least : Nat) (n : Nat) : String :=
  let digits := String.ofList (Nat.toDigits base n)
  padding '0' (least - digits.length) ++ digits

/-- The integer for a decimal conversion; a fraction loses its fractional part. -/
def decimalInteger (letter : Char) (v : Value) : Except Fault Int :=
  match v.int?, v with
  | some n, _ => .ok n
  | none, .float x =>
    if x.isNaN then .error .nanToInteger
    else if x.isInfinite then .error .infinityToInteger
    else .ok x.truncate
  | none, _ => .error (.realRequired letter v)

/-- The number for a fractional conversion. -/
def fraction (v : Value) : Except Fault Binary64 :=
  match v.int?, v with
  | some n, _ =>
    if (Binary64.ofInt n).isInfinite then .error .integerPastFloat else .ok (Binary64.ofInt n)
  | none, .float x => .ok x
  | none, _ => .error (.notReal v)

/-- The integer for a conversion to base eight or sixteen. -/
def wholeNumber (letter : Char) (v : Value) : Except Fault Int :=
  match v.int? with
  | some n => .ok n
  | none => .error (.integerRequired letter v)

/-- The largest precision of an integer. -/
def largestDigits : Nat := 0x7FFFFFFC

/-- An integer, with at least as many digits as the precision asks for. -/
def integer (c : Conversion) (base : Nat) (mark : String) (n : Int) : Except Fault Written :=
  let least := c.precision.getD 0
  if largestDigits < least then .error .precisionTooLarge
  else if largestField < least then .error .fieldTooLarge
  else
    .ok (numeral c.flags (decide (n < 0)) (if c.flags.alternate then mark else "")
      (baseDigits base least n.natAbs))

/-- What is written for a number, with its letters in upper case. -/
def Written.raised (w : Written) : Written :=
  { w with front := w.front.toUpper, body := w.body.toUpper }

/-- The digits of a fractional number, six places where no precision is given. -/
def fractionDigits (c : Conversion) (x : Binary64) : String :=
  let places := c.precision.getD 6
  let lower :=
    if c.letter = 'e' ∨ c.letter = 'E' then x.exponentialText places c.flags.alternate
    else if c.letter = 'f' ∨ c.letter = 'F' then x.fixedText places c.flags.alternate
    else x.generalText places c.flags.alternate
  if c.letter = 'E' ∨ c.letter = 'F' ∨ c.letter = 'G' then lower.toUpper else lower

/-- A fractional number. -/
def fractional (c : Conversion) (x : Binary64) : Except Fault Written :=
  if largestField < c.precision.getD 0 then .error .fieldTooLarge
  else
    let written := fractionDigits c x
    if written.toList.head? = some '-' then
      .ok (numeral c.flags true "" (String.ofList (written.toList.drop 1)))
    else .ok (numeral c.flags false "" written)

/-- A single character, given as a text of one character or by its code. -/
def character (v : Value) : Except Fault String :=
  match v.text?, v.int? with
  | some s, _ => if s.length = 1 then .ok s else .error .notCharacter
  | none, some n =>
    if 0 ≤ n ∧ n < 0x110000 then .ok (String.singleton (Char.ofNat n.toNat))
    else .error .characterRange
  | none, none => .error .notCharacter

/-- What a directive makes of a value, before it is put into its field. -/
def convert (text : Rendering) (plate : Nameplate) (c : Conversion) (v : Value) :
    Logged Written :=
  match c.letter with
  | 's' => do
    let written ← text.plain v
    pure (cut c written)
  | 'r' => pure (cut c (v.shown plate))
  | 'a' => pure (cut c (Text.asciiOnly (v.shown plate)))
  | 'd' | 'i' | 'u' => Logged.ofExcept ((decimalInteger c.letter v).bind (integer c 10 ""))
  | 'o' => Logged.ofExcept ((wholeNumber c.letter v).bind (integer c 8 "0o"))
  | 'x' => Logged.ofExcept ((wholeNumber c.letter v).bind (integer c 16 "0x"))
  | 'X' =>
    Logged.ofExcept (((wholeNumber c.letter v).bind (integer c 16 "0x")).map Written.raised)
  | 'e' | 'E' | 'f' | 'F' | 'g' | 'G' => Logged.ofExcept ((fraction v).bind (fractional c))
  | 'c' => Logged.ofExcept ((character v).map fun s => { body := s })
  | letter => Logged.fail (.unsupportedConversion letter c.index)

/-- What a directive writes, and the arguments after it. -/
def fillDirective (text : Rendering) (plate : Nameplate) (d : Directive) (args : Arguments) :
    Logged (String × Arguments) := do
  let args ← Logged.ofExcept (args.select d.key)
  let (width, flags, args) ← Logged.ofExcept (takeWidth args d.flags d.width)
  let (precision, args) ← Logged.ofExcept (takePrecision args d.precision)
  match d.conversion with
  | none => Logged.fail .incompleteFormat
  | some letter => do
    let (v, args) ← Logged.ofExcept args.next
    let c : Conversion := ⟨letter, flags, width, precision, d.index⟩
    let written ← convert text plate c v
    let filled ← Logged.ofExcept (field c written)
    pure (filled, args)

/-- What the parts of a template write. -/
def fillPieces (text : Rendering) (plate : Nameplate) : List Piece → Arguments → Logged String
  | [], args =>
    if args.mapping.isNone && !args.pending.isEmpty then Logged.fail .tooManyArguments
    else pure ""
  | .literal c :: rest, args => do
    let tail ← fillPieces text plate rest args
    pure (String.singleton c ++ tail)
  | .directive d :: rest, args => do
    let (written, args) ← fillDirective text plate d args
    let tail ← fillPieces text plate rest args
    pure (written ++ tail)

/-- A template with its arguments filled in. -/
def fill (text : Rendering) (plate : Nameplate) (template : String) (args : List Value) :
    Logged String :=
  fillPieces text plate (pieces template) (Arguments.ofList args)

end Template

end SqlCompose
