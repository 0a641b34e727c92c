import SqlCompose.Log.Event
import SqlCompose.Fault
import SqlCompose.Value.Equality

/-!
# SqlCompose — names of loggers

All loggers live in one namespace. A name that is handed in is kept if it is the
name of the namespace or continues it behind a dot, and is put below the
namespace otherwise. Above a name stand the loggers of the parts that end before
its dots. Which of these parts are names of loggers at all depends on what was
asked for so far, and where two dots stand side by side this also decides where
the search goes on (`LoggerName.above`).
-/

namespace SqlCompose

namespace LoggerName

/-- The name continues the name of the namespace behind a dot. -/
def isBelow (name : String) : Bool := (loggerBelow "").toList.isPrefixOf name.toList

/-- The full name for a name. -/
def qualify (name : String) : String :=
  if name = namespaceName ∨ isBelow name then name else loggerBelow name

/-- The full name for whatever is handed in as a name; nothing stands for the root of the
namespace. -/
def ofValue : Value → Except Fault String
  | .null => .ok namespaceName
  | .text name => .ok (qualify name)
  | .join kind => .ok (loggerBelow ((Value.join kind).formatted .blank))
  | .order direction => .ok (loggerBelow ((Value.order direction).formatted .blank))
  | .bytes _ => .error .bytesName
  | other => .error (.noAttribute other "startswith")

/-- The names of the loggers that the library makes for itself: the root of the namespace, and one
logger for each kind of statement. -/
def own : List String :=
  namespaceName ::
    ["select", "insert", "update", "delete"].map fun word => loggerBelow ("builder." ++ word)

/-- The loggers above a reversed name, nearest first, in reading order: of the parts that end before
a dot those that are known as loggers. A part that is not known and ends in a dot itself takes this
dot with it, so that what stands before that dot is not looked at. -/
def above (known : String → Bool) : List Char → List String
  | [] => []
  | '.' :: c :: rest =>
    let front := String.ofList (c :: rest).reverse
    if known front then front :: above known (c :: rest) else above known rest
  | _ :: rest => above known rest

end LoggerName

end SqlCompose
