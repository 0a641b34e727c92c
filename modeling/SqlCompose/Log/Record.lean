import SqlCompose.Json.Writer
import SqlCompose.Log.Event
import SqlCompose.Log.Template
import SqlCompose.Log.Timestamp

/-!
# SqlCompose — records and the lines written for them

A record is an event with the time at which it was reported. It is written as a
line in one of two styles: `structured`, a JSON table of the record's own
entries, its further fields and its problem, or `simple`, four parts separated
by dashes.

Further fields are entered into the table one by one, so a field whose name is
that of an entry replaces it in place.
-/

namespace SqlCompose

/-- What is written about a report. -/
structure Record where
  /-- The name of the logger. -/
  logger : String
  level : Level
  /-- The message, or its template if there are arguments. -/
  message : Value
  args : List Value
  /-- Further fields, if there are any. -/
  fields : Option Value
  module : String
  function : Option String
  line : Option Int
  /-- The report of the problem that the record is about. -/
  problem : Option String
  /-- The time, in milliseconds since the start of 1970. -/
  millis : Int
  deriving Inhabited

/-- The styles of lines. -/
inductive LineStyle where
  | structured
  | simple
  deriving DecidableEq, Inhabited

namespace Record

/-- The record of an event at a time. Places in the source are not kept. -/
def ofEvent (event : Event) (millis : Int) : Record where
  logger := event.logger
  level := event.level
  message := event.message
  args := event.args
  fields := event.fields
  module := event.module
  function := some event.function
  line := some 0
  problem := none
  millis := millis

/-- The module that a source file defines: its name without directories and without the last
extension. A dot at the front of the name begins no extension. -/
def moduleOfPath (path : String) : String :=
  let name := (path.toList.reverse.takeWhile (· ≠ '/')).reverse
  let stem := (name.reverse.dropWhile (· ≠ '.')).drop 1
  if stem.all (· == '.') then String.ofList name else String.ofList stem.reverse

/-- The message with its arguments filled in. -/
def messageText (text : Rendering) (plate : Nameplate) (r : Record) : Logged String := do
  let message ← text.plain r.message
  if r.args.isEmpty then pure message else Template.fill text plate message r.args

/-- The moment of a record. Seconds have to fit sixty-four bits, years thirty-two. -/
def moment (r : Record) : Except Fault Moment :=
  let m := Moment.ofMillis r.millis
  if m.seconds < -0x8000000000000000 ∨ 0x8000000000000000 ≤ m.seconds then .error .secondsPastWord
  else if m.year - 1900 < -0x80000000 ∨ 0x80000000 ≤ m.year - 1900 then .error .yearPastCalendar
  else if 0x80000000 ≤ m.year then .error .yearPastWord
  else .ok m

/-- The time, by a pattern or in the standard form. -/
def timeText (pattern : String) (r : Record) : Except Fault String := do
  let m ← r.moment
  if pattern = "" then .ok (Timestamp.standard m)
  else if pattern.toList.contains '\x00' then .error .embeddedNull
  else .ok (Timestamp.render pattern m)

/-! ## Structured lines -/

/-- The entries that every structured line starts with. -/
def ownEntries (r : Record) (time message : String) : List (Value × Value) :=
  [(.text "timestamp", .text time),
   (.text "level", .text r.level.name),
   (.text "logger", .text r.logger),
   (.text "message", .text message),
   (.text "module", .text r.module),
   (.text "function", (r.function.map Value.text).getD .null),
   (.text "line", (r.line.map Value.int).getD .null)]

/-- The name and the value of a field that is given as an item of a sequence. -/
def fieldOf (index : Nat) (item : Value) : Except Fault (Value × Value) :=
  match item.elements? with
  | none => .error (.fieldNotSequence index)
  | some [name, value] => match Value.unkeyable? name with
    | some part => .error (.unkeyable part)
    | none => .ok (name, value)
  | some elements => .error (.fieldLength index elements.length)

/-- Enters fields that are given as items of a sequence. -/
def enterItems (index : Nat) :
    List Value → List (Value × Value) → Except Fault (List (Value × Value))
  | [], entries => .ok entries
  | item :: rest, entries =>
    match fieldOf index item with
    | .ok (name, value) => enterItems (index + 1) rest (Value.insertEntry name value entries)
    | .error fault => .error fault

/-- Enters further fields: the entries of a table, or the pairs that anything else consists of. -/
def enterFields (fields : Value) (entries : List (Value × Value)) :
    Except Fault (List (Value × Value)) :=
  match fields with
  | .dict added => .ok (Value.insertEntries added entries)
  | _ => match fields.elements? with
    | some items => enterItems 0 items entries
    | none => .error (.notIterable fields)

/-- The entries of a structured line. -/
def entries (r : Record) (time message : String) : Except Fault (List (Value × Value)) := do
  let own := r.ownEntries time message
  let withFields ← match r.fields with
    | some fields => enterFields fields own
    | none => .ok own
  match r.problem with
  | some report => .ok (Value.insertEntry (.text "exception") (.text report) withFields)
  | none => .ok withFields

/-- The structured line of a record. -/
def structuredLine (text : Rendering) (plate : Nameplate) (pattern : String) (r : Record) :
    Logged String := do
  let time ← Logged.ofExcept (r.timeText pattern)
  let message ← r.messageText text plate
  let entries ← Logged.ofExcept (r.entries time message)
  Json.write text (.dict entries)

/-! ## Simple lines -/

/-- The simple line of a record. -/
def simpleLine (text : Rendering) (plate : Nameplate) (r : Record) : Logged String := do
  let message ← r.messageText text plate
  let time ← Logged.ofExcept (r.timeText "")
  pure (time ++ " - " ++ r.logger ++ " - " ++ r.level.name ++ " - "
    ++ message)

/-- The line of a record in a style. -/
def lineIn (style : LineStyle) (text : Rendering) (plate : Nameplate) (r : Record) :
    Logged String :=
  match style with
  | .structured => r.structuredLine text plate ""
  | .simple => r.simpleLine text plate

end Record

end SqlCompose
