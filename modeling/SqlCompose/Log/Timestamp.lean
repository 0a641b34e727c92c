import SqlCompose.Decimal.Binary64

/-!
# SqlCompose — dates and times

A moment is a number of seconds since the start of 1970, in universal time. A
clock that counts milliseconds is kept as such a number, in the binary64 format,
so the milliseconds that are written are those of the nearest number of that
format and may be one less than those of the clock. `Moment.ofMillis` breaks it
down into calendar fields, and `Timestamp.render` writes it by a pattern of
directives: a percent sign, flags, a width, a modifier and a letter. A directive
that is not known is written as it stands.
-/

namespace SqlCompose

/-- A moment in calendar fields. Months and days of the month count from one, days of the week
from Sunday as zero, days of the year from zero. -/
structure Moment where
  seconds : Int
  /-- The milliseconds. They count towards zero, so they are negative before 1970. -/
  milli : Int := 0
  year : Int
  month : Nat
  day : Nat
  hour : Nat
  minute : Nat
  second : Nat
  weekday : Nat
  yearDay : Nat
  deriving DecidableEq, Inhabited

namespace Moment

/-- A year with a leap day. -/
def isLeap (year : Int) : Bool :=
  year % 4 == 0 && (year % 100 != 0 || year % 400 == 0)

/-- The number of days from the first of March of the year zero to a date. Years are counted from
March, so that the leap day is the last one. -/
def daysFromMarch (year : Int) (month day : Nat) : Int :=
  let marchYear := if month ≤ 2 then year - 1 else year
  let marchMonth := (month + 9) % 12
  365 * marchYear + marchYear / 4 - marchYear / 100 + marchYear / 400
    + ((153 * marchMonth + 2) / 5 : Nat) + (day : Int) - 1

/-- The number of days between the first of March of the year zero and the start of 1970. -/
def epochDays : Int := daysFromMarch 1970 1 1

/-- The year, month and day that a number of days since the start of 1970 falls on. -/
def dateOfDays (days : Int) : Int × Nat × Nat :=
  let shifted := days + epochDays
  let era := shifted / 146097
  let dayOfEra := (shifted % 146097).toNat
  let yearOfEra := (dayOfEra - dayOfEra / 1460 + dayOfEra / 36524 - dayOfEra / 146096) / 365
  let dayOfYear := dayOfEra - (365 * yearOfEra + yearOfEra / 4 - yearOfEra / 100)
  let marchMonth := (5 * dayOfYear + 2) / 153
  let day := dayOfYear - (153 * marchMonth + 2) / 5 + 1
  let month := if marchMonth < 10 then marchMonth + 3 else marchMonth - 9
  let year := (yearOfEra : Int) + era * 400
  (if month ≤ 2 then year + 1 else year, month, day)

/-- The calendar fields of a number of seconds since the start of 1970. -/
def ofSeconds (seconds : Int) : Moment :=
  let days := seconds / 86400
  let rest := (seconds % 86400).toNat
  let (year, month, day) := dateOfDays days
  { seconds := seconds
    year := year
    month := month
    day := day
    hour := rest / 3600
    minute := rest / 60 % 60
    second := rest % 60
    weekday := ((days + 4) % 7).toNat
    yearDay := (days + epochDays - daysFromMarch year 1 1).toNat }

/-- A number of milliseconds as a number of seconds. -/
def secondsOf (millis : Int) : Binary64 :=
  Binary64.ofDecimal (decide (millis < 0)) millis.natAbs (-3)

/-- The calendar fields of a number of milliseconds since the start of 1970. -/
def ofMillis (millis : Int) : Moment :=
  let seconds := secondsOf millis
  { ofSeconds seconds.floor with milli := (seconds.scaledFraction 1000).truncate }

/-- The number of the week in the year, when weeks start on a given day of the week and days
before the first full week belong to week zero. -/
def weekFrom (start : Nat) (m : Moment) : Nat := (m.yearDay + 7 - (m.weekday + 7 - start) % 7) / 7

/-- The days of a year. -/
def daysIn (year : Int) : Int := if isLeap year then 366 else 365

/-- Days since the Monday of the first week of a year, the week with the first Thursday. -/
def daysIntoWeeks (yearDay : Int) (weekday : Nat) : Int :=
  yearDay - (yearDay - weekday + 382) % 7 + 3

/-- The week-based year and its week, from one. -/
def isoWeek (m : Moment) : Int × Nat :=
  let days := daysIntoWeeks m.yearDay m.weekday
  if days < 0 then
    (m.year - 1, (daysIntoWeeks (m.yearDay + daysIn (m.year - 1)) m.weekday / 7 + 1).toNat)
  else
    let past := daysIntoWeeks ((m.yearDay : Int) - daysIn m.year) m.weekday
    if 0 ≤ past then (m.year + 1, (past / 7 + 1).toNat) else (m.year, (days / 7 + 1).toNat)

end Moment

namespace Timestamp

/-- The days of the week. -/
def weekdays : List String :=
  ["Sunday", "Monday", "Tuesday", "Wednesday", "Thursday", "Friday", "Saturday"]

/-- The months. -/
def months : List String :=
  ["January", "February", "March", "April", "May", "June", "July", "August", "September",
   "October", "November", "December"]

/-- The first three letters of a name. -/
def short (name : String) : String := String.ofList (name.toList.take 3)

/-- How a directive is padded: as its letter asks for, or as a flag says. -/
inductive Padding where
  | byLetter
  | blanks
  | zeros
  /-- A number is written without padding of its own. -/
  | bare
  deriving DecidableEq

/-- What stands between the percent sign of a directive and its letter. -/
structure Options where
  padding : Padding := .byLetter
  upper : Bool := false
  swapped : Bool := false
  width : Nat := 0
  modifier : Option Char := none

/-- A flag character taken into account; of several about padding the last one counts. -/
def Options.addFlag? (options : Options) : Char → Option Options
  | '_' => some { options with padding := .blanks }
  | '-' => some { options with padding := .bare }
  | '0' => some { options with padding := .zeros }
  | '^' => some { options with upper := true }
  | '#' => some { options with swapped := true }
  | _ => none

/-- Flag characters at the front of a directive, and what follows them. -/
def readFlags (options : Options) : List Char → Options × List Char
  | [] => (options, [])
  | c :: rest => match options.addFlag? c with
    | some more => readFlags more rest
    | none => (options, c :: rest)

/-- A width at the front of a text, and what follows it. A field wider than the room for the whole
text cannot be written, however wide it is. -/
def readWidth (room : Nat) (options : Options) (source : List Char) : Options × List Char :=
  let digits := source.takeWhile Char.isDigit
  ({ options with width := min (Nat.ofDigitChars 10 digits 0) room }, source.dropWhile Char.isDigit)

/-- A modifier at the front of a text, and what follows it. -/
def readModifier (options : Options) : List Char → Options × List Char
  | 'E' :: rest => ({ options with modifier := some 'E' }, rest)
  | 'O' :: rest => ({ options with modifier := some 'O' }, rest)
  | rest => (options, rest)

/-- What stands in front of the letter of a directive, and what follows it. -/
def readOptions (room : Nat) (source : List Char) : Options × List Char :=
  let flagged := readFlags {} source
  let sized := readWidth room flagged.1 flagged.2
  readModifier sized.1 sized.2

/-- A text padded on the left to a width. -/
def padLeft (fill : Char) (width : Nat) (s : String) : String :=
  String.ofList (List.replicate (width - s.length) fill) ++ s

/-- A text in the field of a directive: padded with zeros if a flag asks for them, and with blanks
otherwise. -/
def field (options : Options) (s : String) : String :=
  padLeft (if options.padding = .zeros then '0' else ' ') options.width s

/-- A number with at least the given count of digits, and at least as wide as the field. Zeros
stand behind the sign. -/
def number (options : Options) (usual : Padding) (digits : Nat) (n : Int) : String :=
  let sign := if n < 0 then "-" else ""
  let text := toString n.natAbs
  let wide := max options.width digits
  match if options.padding = .byLetter then usual else options.padding with
  | .bare => field options (sign ++ text)
  | .blanks => padLeft ' ' wide (sign ++ text)
  | _ => sign ++ padLeft '0' (wide - sign.length) text

/-- A word in a field. Only ASCII letters have an upper case here. -/
def word (options : Options) (s : String) : String :=
  field options (if options.upper then s.toUpper else s)

/-- A name of a day or a month; its case is raised by either of the two case flags. -/
def name (options : Options) (s : String) : String :=
  word { options with upper := options.upper || options.swapped } s

/-- A word whose case is lowered by the second case flag. -/
def lowered (options : Options) (s : String) : String :=
  if options.swapped then field options s.toLower else word options s

/-- Two digits. -/
def twoDigits (n : Nat) : String := padLeft '0' 2 (toString n)

/-- The time of day. -/
def clock (m : Moment) : String :=
  twoDigits m.hour ++ ":" ++ twoDigits m.minute ++ ":" ++ twoDigits m.second

/-- The hour on a dial of twelve. -/
def dialHour (m : Moment) : Nat := if m.hour % 12 = 0 then 12 else m.hour % 12

/-- The half of the day. -/
def halfDay (m : Moment) : String := if m.hour < 12 then "AM" else "PM"

/-- The last two digits of a year. -/
def yearOfCentury (year : Int) : Nat := (year % 100).toNat

/-- Letters that may not carry the modifier `E`. -/
def withoutE : List Char :=
  ['a', 'A', 'b', 'B', 'd', 'D', 'e', 'F', 'g', 'G', 'h', 'H', 'I', 'j', 'k', 'l', 'm', 'M', 'S',
   'U', 'V', 'w', 'W']

/-- Letters that may not carry the modifier `O`. -/
def withoutO : List Char := ['a', 'A', 'c', 'D', 'F', 'x', 'X', 'Y']

/-- A letter may carry a modifier; where it may, the modifier changes nothing. -/
def accepts (modifier : Option Char) (letter : Char) : Bool :=
  match modifier with
  | none => true
  | some 'E' => !withoutE.contains letter
  | some _ => !withoutO.contains letter

/-- What a directive is written as, if its letter is known. -/
def directive? (m : Moment) (options : Options) (letter : Char) : Option String :=
  let number := number options
  let word := word options
  match letter with
  | '%' => some (word "%")
  | 'n' => some (word "\n")
  | 't' => some (word "\t")
  | 'a' => some (name options (short (weekdays.getD m.weekday "")))
  | 'A' => some (name options (weekdays.getD m.weekday ""))
  | 'b' => some (name options (short (months.getD (m.month - 1) "")))
  | 'h' => some (name options (short (months.getD (m.month - 1) "")))
  | 'B' => some (name options (months.getD (m.month - 1) ""))
  | 'c' => some (word (short (weekdays.getD m.weekday "") ++ " "
      ++ short (months.getD (m.month - 1) "") ++ " " ++ padLeft ' ' 2 (toString m.day) ++ " "
      ++ clock m ++ " " ++ toString m.year))
  | 'C' => some (number .zeros 1 (m.year / 100))
  | 'd' => some (number .zeros 2 m.day)
  | 'D' => some (word (twoDigits m.month ++ "/" ++ twoDigits m.day ++ "/"
      ++ twoDigits (yearOfCentury m.year)))
  | 'e' => some (number .blanks 2 m.day)
  | 'F' => some (word (toString m.year ++ "-" ++ twoDigits m.month ++ "-" ++ twoDigits m.day))
  | 'g' => some (number .zeros 2 (yearOfCentury m.isoWeek.1))
  | 'G' => some (number .zeros 1 m.isoWeek.1)
  | 'H' => some (number .zeros 2 m.hour)
  | 'I' => some (number .zeros 2 (dialHour m))
  | 'j' => some (number .zeros 3 (m.yearDay + 1 : Nat))
  | 'k' => some (number .blanks 2 m.hour)
  | 'l' => some (number .blanks 2 (dialHour m))
  | 'm' => some (number .zeros 2 m.month)
  | 'M' => some (number .zeros 2 m.minute)
  | 'p' => some (lowered options (halfDay m))
  | 'P' => some (field options (halfDay m).toLower)
  | 'r' => some (word (twoDigits (dialHour m) ++ ":" ++ twoDigits m.minute ++ ":"
      ++ twoDigits m.second ++ " " ++ halfDay m))
  | 'R' => some (word (twoDigits m.hour ++ ":" ++ twoDigits m.minute))
  | 's' => some (field options (toString m.seconds))
  | 'S' => some (number .zeros 2 m.second)
  | 'T' => some (word (clock m))
  | 'u' => some (number .zeros 1 ((m.weekday + 6) % 7 + 1 : Nat))
  | 'U' => some (number .zeros 2 (m.weekFrom 0))
  | 'V' => some (number .zeros 2 m.isoWeek.2)
  | 'w' => some (number .zeros 1 m.weekday)
  | 'W' => some (number .zeros 2 (m.weekFrom 1))
  | 'x' => some (word (twoDigits m.month ++ "/" ++ twoDigits m.day ++ "/"
      ++ twoDigits (yearOfCentury m.year)))
  | 'X' => some (word (clock m))
  | 'y' => some (number .zeros 2 (yearOfCentury m.year))
  | 'Y' => some (number .zeros 1 m.year)
  | 'z' => some (field options "+" ++ number .zeros 4 0)
  | 'Z' => some (lowered options "UTC")
  | _ => none

/-- A directive behind its percent sign: what it is written as, and what follows it. One that is not
known, or ends before its letter, stands for itself, as a word in its field. -/
def readDirective (room : Nat) (m : Moment) (source : List Char) : List Char × List Char :=
  let read := readOptions room source
  let itself (length : Nat) : List Char :=
    (word read.1 (String.ofList ('%' :: source.take length))).toList
  match read.2 with
  | [] => (itself source.length, [])
  | letter :: rest =>
    match if accepts read.1.modifier letter then directive? m read.1 letter else none with
    | some written => (written.toList, rest)
    | none => (itself (source.length - rest.length), rest)

/-- A moment written by a pattern. The bound on the steps is the length of the pattern: every step
takes at least one character. -/
def renderChars (room : Nat) (m : Moment) : Nat → List Char → List Char
  | 0, _ => []
  | _ + 1, [] => []
  | steps + 1, '%' :: rest =>
    let read := readDirective room m rest
    read.1 ++ renderChars room m steps read.2
  | steps + 1, c :: rest => c :: renderChars room m steps rest

/-- The room for a text by a pattern of a given length: the least of 1024, 2048, 4096 and so on that
has 256 places for every character of the pattern. -/
def roomFor (length : Nat) : Nat := max 1024 (Nat.pow 2 ((256 * length - 1).log2 + 1))

/-- A moment written by a pattern. A text that does not leave a place of its room free is not
written at all. -/
def render (pattern : String) (m : Moment) : String :=
  let room := roomFor pattern.length
  let written := renderChars room m pattern.length pattern.toList
  if written.length < room then String.ofList written else ""

/-- The pattern of dates and times where none is asked for. -/
def standardPattern : String := "%Y-%m-%d %H:%M:%S"

/-- Milliseconds with three places, of which the sign takes one. -/
def milliText (part : Int) : String :=
  if part < 0 then "-" ++ padLeft '0' 2 (toString part.natAbs)
  else padLeft '0' 3 (toString part.natAbs)

/-- A moment in the standard form: the date, the time, and the milliseconds behind a comma. -/
def standard (m : Moment) : String :=
  render standardPattern m ++ "," ++ milliText m.milli

end Timestamp

end SqlCompose
