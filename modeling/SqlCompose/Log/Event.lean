import SqlCompose.Log.Level

/-!
# SqlCompose — what a statement reports to the log

Working on a statement may report something: that a condition was replaced, that
a text was built. Such a report is an `Event`. Whether a record is made of it,
and where it is written, is decided by the loggers (`SqlCompose.Log.Hub`) and has
no influence on the statement.
-/

namespace SqlCompose

/-- The name of the namespace that all loggers belong to; it is also the name of the logger at
its root. -/
def namespaceName : String := "fluentsql"

/-- The name of a logger below the root of the namespace. -/
def loggerBelow (name : String) : String := namespaceName ++ "." ++ name

/-- A report to a logger. -/
structure Event where
  /-- The full name of the logger. -/
  logger : String
  level : Level
  /-- The message, or the template of the message if there are arguments. -/
  message : Value
  args : List Value
  /-- Further fields, where the report carries any. -/
  fields : Option Value
  /-- The module that reports. -/
  module : String
  /-- The function that reports. -/
  function : String
  deriving Inhabited

/-- A report with fields of its own. -/
def Event.withFields (logger : String) (level : Level) (message : Value)
    (fields : List (Value × Value)) : Event where
  logger := logger
  level := level
  message := message
  args := []
  fields := some (.dict fields)
  module := "logging"
  function := "log_with_context"

/-- The report that a condition of a statement on a table is about to be replaced. -/
def Event.replacing (statement clause setter : String) (table : Value) : Event where
  logger := loggerBelow ("builder." ++ statement)
  level := .debug
  message := .text ("Replacing " ++ clause ++ " condition on %s")
  args := [table]
  fields := none
  module := "_" ++ statement
  function := setter

/-- The report that the text of a statement on a table was built. -/
def Event.built (statement keyword : String) (table : Value) (name : String) (detail : Value) :
    Event :=
  .withFields (loggerBelow ("builder." ++ statement)) .debug
    (.text ("Built " ++ keyword ++ " statement"))
    [(.text "table", table), (.text name, detail)]

end SqlCompose
