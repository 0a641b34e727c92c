import SqlCompose.Value.Display

/-!
# SqlCompose — why something fails

A failure is a cause, with the values it is about. Its class and its wording are
two functions of the cause, so that nothing else in the library builds an error
message. Messages of the library's own class carry no blanks at their ends.
-/

namespace SqlCompose

/-- The classes of errors. -/
inductive ErrorClass where
  /-- The base class of the library's own errors. -/
  | general
  /-- A statement that cannot be built. -/
  | statement
  | value
  | type
  | key
  | runtime
  | access
  | overflow
  | memory
  | system
  | recursion
  deriving DecidableEq, Inhabited

namespace ErrorClass

/-- The name under which a class is reported. -/
def name : ErrorClass → String
  | general => "FluentSQLError"
  | statement => "SQLBuilderError"
  | value => "ValueError"
  | type => "TypeError"
  | key => "KeyError"
  | runtime => "RuntimeError"
  | access => "AttributeError"
  | overflow => "OverflowError"
  | memory => "MemoryError"
  | system => "OSError"
  | recursion => "RecursionError"

/-- The library's own classes, as opposed to the built-in ones. -/
def isOwn : ErrorClass → Bool
  | general => true
  | statement => true
  | _ => false

end ErrorClass

/-- The causes of failure. -/
inductive Fault where
  -- what a statement refuses
  | blankTable (given : Value)
  | notCount (clause : String) (given : Value)
  | negativeCount (clause : String) (given : Value)
  | bareText (clause : String) (given : Value)
  | unknownJoinKind (given : Value)
  | unknownSortOrder (given : Value)
  | notAssignment (given : Value)
  | misaligned (table : String) (columns values : Nat)
  | noColumns (table : String)
  | noAssignments (table : String)
  -- what a value cannot do
  | notIterable (given : Value)
  | notJoinable
  | notText (index : Nat) (found : Value)
  | notBytes (index : Nat) (found : Value)
  | unkeyable (part : Value)
  | notMember (setName : String) (given : Value)
  | noAttribute (given : Value) (name : String)
  | noSetter (className name : String)
  | noSlot (className name : String)
  | readOnly (className name : String)
  | circular
  -- what a logger refuses
  | unknownLevel (given : Value)
  | unknownLevelName (given : Value)
  | notLevel (given : Value)
  | notComparable (given : Value)
  | levelNotInteger
  | bytesName
  | notPath (given : Value)
  | embeddedNullByte
  -- what a log line cannot show
  | embeddedNull
  | secondsPastWord
  | yearPastCalendar
  | yearPastWord
  | notFieldKey (given : Value)
  | fieldNotSequence (index : Nat)
  | fieldLength (index length : Nat)
  -- what a message template refuses
  | mappingRequired
  | incompleteKey
  | missingKey (key : String)
  | widthNotInteger
  | widthTooBig
  | precisionTooBig
  | integerPastFloat
  | widthPastWord
  | precisionPastWord
  | precisionTooLarge
  | fieldTooLarge
  | incompleteFormat
  | tooFewArguments
  | tooManyArguments
  | unsupportedConversion (conversion : Char) (index : Nat)
  | realRequired (conversion : Char) (given : Value)
  | integerRequired (conversion : Char) (given : Value)
  | notReal (given : Value)
  | nanToInteger
  | infinityToInteger
  | characterRange
  | notCharacter
  deriving Inhabited

namespace Fault

/-- The class of a failure. -/
def errorClass : Fault → ErrorClass
  | blankTable _ => .statement
  | notCount _ _ => .statement
  | negativeCount _ _ => .statement
  | bareText _ _ => .statement
  | unknownJoinKind _ => .statement
  | unknownSortOrder _ => .statement
  | notAssignment _ => .statement
  | misaligned _ _ _ => .statement
  | noColumns _ => .statement
  | noAssignments _ => .statement
  | notIterable _ => .type
  | notJoinable => .type
  | notText _ _ => .type
  | notBytes _ _ => .type
  | unkeyable _ => .type
  | notMember _ _ => .value
  | noAttribute _ _ => .access
  | noSetter _ _ => .access
  | noSlot _ _ => .access
  | readOnly _ _ => .access
  | circular => .recursion
  | unknownLevel _ => .value
  | unknownLevelName _ => .value
  | notLevel _ => .type
  | notComparable _ => .type
  | levelNotInteger => .type
  | bytesName => .type
  | notPath _ => .type
  | embeddedNullByte => .value
  | embeddedNull => .value
  | secondsPastWord => .overflow
  | yearPastCalendar => .system
  | yearPastWord => .overflow
  | notFieldKey _ => .type
  | fieldNotSequence _ => .type
  | fieldLength _ _ => .value
  | mappingRequired => .type
  | incompleteKey => .value
  | missingKey _ => .key
  | widthNotInteger => .type
  | widthTooBig => .value
  | precisionTooBig => .value
  | integerPastFloat => .overflow
  | widthPastWord => .overflow
  | precisionPastWord => .overflow
  | precisionTooLarge => .overflow
  | fieldTooLarge => .memory
  | incompleteFormat => .value
  | tooFewArguments => .type
  | tooManyArguments => .type
  | unsupportedConversion _ _ => .value
  | realRequired _ _ => .type
  | integerRequired _ _ => .type
  | notReal _ => .type
  | nanToInteger => .value
  | infinityToInteger => .overflow
  | characterRange => .overflow
  | notCharacter => .type

/-- A name in single quotes, as it stands. -/
def named (name : String) : String := "'" ++ name ++ "'"

/-- The type of a value, as the subject of a sentence. -/
def objectOf (plate : Nameplate) (v : Value) : String := named (v.typeName plate) ++ " object"

/-- A conversion character in a message: outside the printable ASCII range a question mark
stands for it. -/
def conversionShown (c : Char) : String :=
  if 31 ≤ c.toNat ∧ c.toNat ≤ 126 then String.singleton c else "?"

/-- The code of a character in hexadecimal, without leading zeros. -/
def hexCode (c : Char) : String := String.ofList (Nat.toDigits 16 c.toNat)

/-- The sentence that a cause is reported with. -/
def sentence (plate : Nameplate) : Fault → String
  | blankTable v => "A statement needs a non-empty target table, got " ++ v.shown plate
  | notCount clause v => clause ++ " expects an integer, got " ++ v.shown plate
  | negativeCount clause v => clause ++ " must be non-negative, got " ++ v.formatted plate
  | bareText clause v =>
    clause ++ " expects a sequence of strings, got a bare string " ++ v.shown plate
  | unknownJoinKind v => "Unsupported join type: " ++ v.shown plate
  | unknownSortOrder v => "Unsupported order direction: " ++ v.shown plate
  | notAssignment v => "UPDATE assignments must be (column, value) pairs, got " ++ v.shown plate
  | misaligned table columns values =>
    "INSERT INTO " ++ table ++ " has " ++ toString columns ++ " field(s) but "
      ++ toString values ++ " value(s)"
  | noColumns table => "INSERT INTO " ++ table ++ " needs at least one column"
  | noAssignments table => "UPDATE " ++ table ++ " needs at least one assignment"
  | notIterable v => objectOf plate v ++ " is not iterable"
  | notJoinable => "can only join an iterable"
  | notText index v =>
    "sequence item " ++ toString index ++ ": expected str instance, " ++ v.typeName plate
      ++ " found"
  | notBytes index v =>
    "sequence item " ++ toString index ++ ": expected a bytes-like object, " ++ v.typeName plate
      ++ " found"
  | unkeyable v => "unhashable type: " ++ named (v.typeName plate)
  | notMember setName v => v.shown plate ++ " is not a valid " ++ setName
  | noAttribute v name => objectOf plate v ++ " has no attribute " ++ named name
  | noSetter className name =>
    "property " ++ named name ++ " of " ++ named className ++ " object has no setter"
  | noSlot className name => named className ++ " object has no attribute " ++ named name
  | readOnly className name =>
    named className ++ " object attribute " ++ named name ++ " is read-only"
  | circular => "maximum recursion depth exceeded"
  | unknownLevel v => "Unknown logging level: " ++ v.shown plate
  | unknownLevelName v => "Unknown level: " ++ v.shown plate
  | notLevel v => "Level not an integer or a valid string: " ++ v.shown plate
  | notComparable v =>
    "'>=' not supported between instances of 'int' and " ++ named (v.typeName plate)
  | levelNotInteger => "level must be an integer"
  | bytesName => "startswith first arg must be bytes or a tuple of bytes, not str"
  | notPath v => "expected str, bytes or os.PathLike object, not " ++ v.typeName plate
  | embeddedNullByte => "embedded null byte"
  | embeddedNull => "embedded null character"
  | secondsPastWord => "timestamp out of range for platform time_t"
  | yearPastCalendar => "[Errno 75] Value too large for defined data type"
  | yearPastWord => "signed integer is greater than maximum"
  | notFieldKey v => "keys must be str, int, float, bool or None, not " ++ v.typeName plate
  | fieldNotSequence index =>
    "cannot convert dictionary update sequence element #" ++ toString index ++ " to a sequence"
  | fieldLength index length =>
    "dictionary update sequence element #" ++ toString index ++ " has length " ++ toString length
      ++ "; 2 is required"
  | mappingRequired => "format requires a mapping"
  | incompleteKey => "incomplete format key"
  | missingKey key => Text.quoted key
  | widthNotInteger => "* wants int"
  | widthTooBig => "width too big"
  | precisionTooBig => "precision too big"
  | integerPastFloat => "int too large to convert to float"
  | widthPastWord => "Python int too large to convert to C ssize_t"
  | precisionPastWord => "Python int too large to convert to C int"
  | precisionTooLarge => "precision too large"
  | fieldTooLarge => ""
  | incompleteFormat => "incomplete format"
  | tooFewArguments => "not enough arguments for format string"
  | tooManyArguments => "not all arguments converted during string formatting"
  | unsupportedConversion c index =>
    "unsupported format character '" ++ conversionShown c ++ "' (0x" ++ hexCode c ++ ") at index "
      ++ toString index
  | realRequired c v =>
    "%" ++ String.singleton c ++ " format: a real number is required, not " ++ v.typeName plate
  | integerRequired c v =>
    "%" ++ String.singleton c ++ " format: an integer is required, not " ++ v.typeName plate
  | notReal v => "must be real number, not " ++ v.typeName plate
  | nanToInteger => "cannot convert float NaN to integer"
  | infinityToInteger => "cannot convert float infinity to integer"
  | characterRange => "%c arg not in range(0x110000)"
  | notCharacter => "%c requires int or char"

/-- The text of a failure. -/
def message (plate : Nameplate) (fault : Fault) : String :=
  if fault.errorClass.isOwn then Text.strip (fault.sentence plate) else fault.sentence plate

end Fault

end SqlCompose
