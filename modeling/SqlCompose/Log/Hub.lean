import SqlCompose.Log.Name
import SqlCompose.Log.Record

/-!
# SqlCompose — loggers and where their records go

The loggers of the namespace take a record if its level is above zero and
reaches the level in force: the level of the logger itself or of the nearest
logger above it that has one. A logger is made when it is asked for. It also
keeps what it has decided on a level, until some logger is given another level;
a logger that is made in between does not change what was decided.

Records of what is below the root of the namespace go to the sinks there: the
console, a file, or a sink of the caller's own, each at most once. They are
handed on to the sinks outside the namespace until a configuration stops that. A
sink that cannot write a record drops it, and the others still get it.

Showing a value in a record may itself report something (a statement is written
out); what it reports reaches a sink before the record does.
-/

namespace SqlCompose

/-- Where records are written. -/
inductive Sink where
  /-- Standard output, in a style. -/
  | console (style : LineStyle)
  /-- A file, in the structured style. -/
  | file (name : String)
  /-- A sink of the caller's own, which keeps records as they are. -/
  | extra (id : Nat)
  deriving DecidableEq, Inhabited

/-- A record as a sink of the caller's own keeps it. -/
structure KeptRecord where
  logger : String
  level : String
  message : String
  module : String
  function : String
  fields : Option Value
  deriving Inhabited

/-- What is written to a sink. -/
inductive Output where
  | console (line : String)
  | file (name line : String)
  | kept (sink : Nat) (record : KeptRecord)
  deriving Inhabited

/-- The loggers of the namespace and the sinks at its root. -/
structure Hub where
  /-- The loggers that were asked for, and the levels that they were given, the latest first; zero
  stands for none. -/
  ranks : List (String × Int) := []
  /-- What loggers have decided since a level was given last: whether they take a level. -/
  verdicts : List (String × Value × Bool) := []
  sinks : List Sink := []
  /-- Whether records also go to the sinks outside the namespace. -/
  propagate : Bool := true
  /-- The sinks outside the namespace, which get what is handed on. -/
  outside : List Sink := []
  /-- The time, in milliseconds since the start of 1970. -/
  clock : Int := 981173106500
  deriving Inhabited

namespace Hub

/-- The level of a logger itself; zero stands for none. -/
def rankOf (hub : Hub) (name : String) : Int :=
  ((hub.ranks.find? fun entry => entry.1 == name).map Prod.snd).getD 0

/-- There is a logger of this name. -/
def hasLogger (hub : Hub) (name : String) : Bool :=
  LoggerName.own.contains name || hub.ranks.any fun entry => entry.1 == name

/-- Asks for a logger, which is made if there is none. -/
def register (hub : Hub) (name : String) : Hub :=
  if hub.hasLogger name then hub else { hub with ranks := (name, 0) :: hub.ranks }

/-- A logger and the loggers above it, from the nearest to the farthest. -/
def lineage (hub : Hub) (name : String) : List String :=
  name :: LoggerName.above hub.hasLogger name.toList.reverse

/-- The level in force for a logger: that of the nearest logger that has one. -/
def effectiveRank (hub : Hub) (name : String) : Int :=
  (((hub.lineage name).map hub.rankOf).find? (· ≠ 0)).getD Level.warningRank

/-- The level in force lets a logger take records of a rank. Zero and what is below it is never
taken. -/
def takes (hub : Hub) (name : String) (rank : Int) : Bool :=
  decide (0 < rank) && decide (hub.effectiveRank name ≤ rank)

/-- What a logger has decided on a level, if it has. -/
def verdict? (hub : Hub) (name : String) (level : Value) : Option Bool :=
  (hub.verdicts.find? fun entry => entry.1 == name && Value.equal level entry.2.1).map
    fun entry => entry.2.2

/-- A logger takes records of a rank. -/
def isEnabled (hub : Hub) (name : String) (rank : Int) : Bool :=
  (hub.verdict? name (.int rank)).getD (hub.takes name rank)

/-- Gives a logger a level. All loggers have to decide again. -/
def setRank (hub : Hub) (name : String) (rank : Int) : Hub :=
  { hub with ranks := (name, rank) :: hub.ranks, verdicts := [] }

/-- Adds a sink, unless it is there already. -/
def addSink (hub : Hub) (sink : Sink) : Hub :=
  if hub.sinks.contains sink then hub else { hub with sinks := hub.sinks ++ [sink] }

/-! ## Delivery -/

/-- The sinks that the records of a logger reach. What is not below the root of the namespace does
not come by the sinks there. -/
def reached (hub : Hub) (logger : String) : List Sink :=
  if (hub.lineage logger).contains namespaceName then
    hub.sinks ++ if hub.propagate then hub.outside else []
  else hub.outside

/-- A record as a sink of the caller's own keeps it. -/
def keep (text : Rendering) (plate : Nameplate) (r : Record) : Logged KeptRecord := do
  let message ← r.messageText text plate
  pure
    { logger := r.logger
      level := r.level.name
      message := message
      module := r.module
      function := r.function.getD ""
      fields := r.fields }

/-- What a sink writes for a record. -/
def write (text : Rendering) (plate : Nameplate) (r : Record) : Sink → Logged Output
  | .console style => do
    let line ← r.lineIn style text plate
    pure (.console (line ++ "\n"))
  | .file name => do
    let line ← r.lineIn .structured text plate
    pure (.file name (line ++ "\n"))
  | .extra id => do
    let record ← keep text plate r
    pure (.kept id record)

/-- What is written for an event. The depth bounds how far events may be reported from within
other events. -/
def deliver (hub : Hub) (text : Rendering) (plate : Nameplate) : Nat → Event → List Output
  | 0, _ => []
  | depth + 1, event =>
    if hub.isEnabled event.logger event.level.rank then
      (hub.reached event.logger).flatMap fun sink =>
        let written := write text plate (.ofEvent event hub.clock) sink
        written.events.flatMap (hub.deliver text plate depth)
          ++ match written.result with
            | .ok output => [output]
            | .error _ => []
    else []

/-- What is written for events, in order. -/
def deliverAll (hub : Hub) (text : Rendering) (plate : Nameplate) (depth : Nat)
    (events : List Event) : List Output :=
  events.flatMap (hub.deliver text plate depth)

/-! ## Settings -/

/-- The rank that is meant by a value: an integer, or a name that is registered exactly so. -/
def rankOfValue (given : Value) : Except Fault Int :=
  match given.int?, given with
  | some n, _ => .ok n
  | none, .text name => match Level.rankOf? name with
    | some rank => .ok rank
    | none => .error (.unknownLevelName given)
  | none, _ => .error (.notLevel given)

/-- The rank that is meant by the name of a level in a configuration: case does not matter. -/
def configuredRank (given : Value) : Except Fault Int :=
  match given.text?, given with
  | some name, _ => match Level.rankOf? (Text.uppercase name) with
    | some rank => .ok rank
    | none => .error (.unknownLevel given)
  | none, .bytes _ => .error (.unknownLevel given)
  | none, _ => .error (.noAttribute given "upper")

/-- What a configuration asks for. -/
structure Configuration where
  level : Value := .text "INFO"
  style : Value := .text "structured"
  /-- The file to write to; a value that does not count as true asks for none. -/
  file : Value := .null
  /-- Sinks of the caller's own. -/
  extras : List Nat := []
  deriving Inhabited

/-- The style of lines that is meant by a value. -/
def styleOf (given : Value) : LineStyle :=
  if Value.equal given (.text "structured") then .structured else .simple

/-- The file of a name; no name has a null character in it. -/
def fileNamed (name : String) : Except Fault (Option String) :=
  if name.toList.contains '\x00' then .error .embeddedNullByte else .ok (some name)

/-- The file that is meant by a value. -/
def fileOf (given : Value) : Except Fault (Option String) :=
  if given.isTrue then
    match given.text?, given with
    | some name, _ => fileNamed name
    | none, .bytes content =>
      fileNamed (String.ofList (content.map fun b => Char.ofNat b.toNat))
    | none, _ => .error (.notPath given)
  else .ok none

/-- The report that a configuration was made. -/
def configuredEvent (settings : Configuration) (sinkCount : Nat) : Event :=
  { Event.withFields namespaceName .info (.text "fluentsql logging configured")
      [(.text "level", settings.level), (.text "format_style", settings.style),
       (.text "handlers_count", .int sinkCount)] with
    function := "configure_logging" }

/-- The loggers before the sinks of a configuration other than the console are added: the level is
set, and the console is the only sink. -/
def restarted (hub : Hub) (rank : Int) (style : LineStyle) : Hub :=
  { hub.setRank namespaceName rank with sinks := [.console style] }

/-- Replaces level and sinks of the namespace by those of a configuration, and reports it. What the
loggers have no say in is handed in: the file, opened or refused, and why going through the sinks of
the caller's own broke off behind those that are listed, if it did. Whatever is refused, what was
done before it stays. -/
def configureWith (hub : Hub) (settings : Configuration) (opened : Except Fault (Option String))
    (broken : Option Fault) : Hub × Logged Unit :=
  match configuredRank settings.level with
  | .error fault => (hub, Logged.fail fault)
  | .ok rank =>
    let started := hub.restarted rank (styleOf settings.style)
    match opened with
    | .error fault => (started, Logged.fail fault)
    | .ok file =>
      let filed := (file.map fun name => started.addSink (.file name)).getD started
      let complete := settings.extras.foldl (fun h id => h.addSink (.extra id)) filed
      match broken with
      | some fault => (complete, Logged.fail fault)
      | none =>
        ({ complete with propagate := false },
          Logged.report (configuredEvent settings complete.sinks.length))

/-- A configuration where every file can be opened and all sinks are come by. -/
def configure (hub : Hub) (settings : Configuration) : Hub × Logged Unit :=
  hub.configureWith settings (fileOf settings.file) none

/-- Whether the level in force lets a logger take records of the level that a value stands for. -/
def judge (hub : Hub) (name : String) (level : Value) : Except Fault Bool :=
  match level.int?, level with
  | some rank, _ => .ok (hub.takes name rank)
  | none, .float x =>
    .ok (!x.isNaN && !x.atMostInt 0 && x.atLeastInt (hub.effectiveRank name))
  | none, _ => .error (.notComparable level)

/-- Whether a logger takes records of the level that a value stands for. -/
def isEnabledFor (hub : Hub) (name : String) (level : Value) : Except Fault Bool :=
  match Value.unkeyable? level with
  | some part => .error (.unkeyable part)
  | none => match hub.verdict? name level with
    | some verdict => .ok verdict
    | none => hub.judge name level

/-- A logger decides whether it takes records of a level, and keeps that. -/
def decideOn (hub : Hub) (name : String) (level : Value) : Hub :=
  match hub.isEnabledFor name level with
  | .ok verdict => { hub with verdicts := (name, level, verdict) :: hub.verdicts }
  | .error _ => hub

/-- Reports a message with fields to a logger. Only an integer is a level, but a fraction is refused
only where it would have been taken. -/
def log (hub : Hub) (name : String) (level message : Value) (fields : List (Value × Value)) :
    Logged Unit :=
  match hub.isEnabledFor name level with
  | .error fault => Logged.fail fault
  | .ok false => pure ()
  | .ok true => match level.int? with
    | none => Logged.fail .levelNotInteger
    | some rank =>
      Logged.report
        (.withFields name ⟨rank, Level.nameOf rank (level.plain .blank)⟩ message fields)

end Hub

end SqlCompose
