import SqlCompose.Log.Hub
import SqlCompose.Statement.Store

/-!
# SqlCompose — sessions

A session holds a collection of statements and the loggers. A request either
concerns the statements or the loggers; what it reports is delivered to the
sinks as the loggers stand. Delivery is the last thing that happens: no result
and no statement depends on it.
-/

namespace SqlCompose

/-- Statements and loggers. -/
structure Session where
  store : Store := {}
  hub : Hub := {}
  deriving Inhabited

/-- What a request returned, and what was written because of it. -/
structure Response (α : Type) where
  result : Except Fault α
  outputs : List Output

namespace Session

/-- The reference that a label names: the latest statement that was created under it. -/
def find? (session : Session) (label : String) : Option StatementRef :=
  ((session.store.entries.zipIdx.reverse).find? fun entry => entry.1.label == label).map Prod.snd

/-- The class name and short form of the statements. -/
def nameplate (session : Session) : Nameplate := session.store.nameplate

/-- Delivers the events of an operation. Values in them are shown as the statements are now. -/
def respond {α : Type} (session : Session) (outcome : Logged α) : Response α :=
  ⟨outcome.result,
    session.hub.deliverAll session.store.text session.nameplate (session.store.size + 1)
      outcome.events⟩

/-! ## Statements -/

/-- Creates a statement under a label, of a class of the library or of the caller's own. -/
def create (session : Session) (label : String) (kind : StatementKind) (table : Value)
    (ownClass : Option String) : Session × Except Fault StatementRef :=
  match Statement.create kind table with
  | .error fault => (session, .error fault)
  | .ok content =>
    let added := session.store.add
      { label := label
        className := ownClass.getD kind.className
        isOpen := ownClass.isSome
        content := content }
    ({ session with store := added.1 }, .ok added.2)

/-- Makes a call on a statement. -/
def call (session : Session) (ref : StatementRef) (entry : Entry) (request : Call) :
    Session × Response Reply :=
  let answer := session.store.call ref entry request
  ({ session with store := answer.state }, session.respond answer.reply)

/-- Builds the text of a statement. -/
def build (session : Session) (ref : StatementRef) : Response String :=
  session.respond (session.store.build ref)

/-- The text of a statement, with nothing reported. -/
def preview (session : Session) (ref : StatementRef) : Except Fault String :=
  (session.store.build ref).result

/-- Whether two statements have the same text. -/
def sameText (session : Session) (a b : StatementRef) : Response Bool :=
  session.respond do
    let left ← session.store.build a
    let right ← session.store.build b
    pure (left == right)

/-- Gives an attribute of a statement a new value. -/
def setAttribute (session : Session) (ref : StatementRef) (entry : Entry) (name : String)
    (value : Value) : Session × Except Fault Unit :=
  match session.store.setAttribute ref entry name value with
  | .ok store => ({ session with store := store }, .ok ())
  | .error fault => (session, .error fault)

/-- Whether a value can be built: statements can, and nothing else. -/
def isBuildable : Value → Bool
  | .statement _ => true
  | _ => false

/-! ## Loggers -/

/-- Sets the time. -/
def setClock (session : Session) (millis : Int) : Session :=
  { session with hub := { session.hub with clock := millis } }

/-- Asks for a logger by its full name. -/
def register (session : Session) (full : String) : Session :=
  { session with hub := session.hub.register full }

/-- Asks for a logger: its full name, and the level in force for it. -/
def logger (session : Session) (name : Value) : Session × Except Fault (String × Int) :=
  match LoggerName.ofValue name with
  | .error fault => (session, .error fault)
  | .ok full =>
    let next := session.register full
    (next, .ok (full, next.hub.effectiveRank full))

/-- Asks for a logger and gives it a level. It has been asked for also if the level is refused. -/
def setLevel (session : Session) (name level : Value) : Session × Except Fault Unit :=
  match LoggerName.ofValue name with
  | .error fault => (session, .error fault)
  | .ok full =>
    let next := session.register full
    match Hub.rankOfValue level with
    | .error fault => (next, .error fault)
    | .ok rank => ({ next with hub := next.hub.setRank full rank }, .ok ())

/-- Asks for a logger and reports a message with fields to it. What the logger decides on the level
is kept. What the loggers of the statements decide need not be: they would not decide otherwise. -/
def log (session : Session) (name level message : Value) (fields : List (Value × Value)) :
    Session × Response Unit :=
  match LoggerName.ofValue name with
  | .error fault => (session, ⟨.error fault, []⟩)
  | .ok full =>
    let asked := session.register full
    let next := { asked with hub := asked.hub.decideOn full level }
    (next, next.respond (next.hub.log full level message (Value.ofEntries fields)))

/-- Configures the namespace. The report of it goes to the new sinks. -/
def configure (session : Session) (settings : Hub.Configuration) : Session × Response Unit :=
  let configured := session.hub.configure settings
  let next := { session with hub := configured.1 }
  (next, next.respond configured.2)

/-- Starts to keep records: the namespace takes a level, hands nothing on, and has the given sink of
the caller's own besides those that it has. -/
def capture (session : Session) (rank : Int) (sink : Nat) : Session :=
  { session with
    hub := { (session.hub.setRank namespaceName rank).addSink (.extra sink) with
      propagate := false } }

end Session

end SqlCompose
