import SqlCompose.Value.Equality
import SqlCompose.Value.Display

/-!
# SqlCompose — levels

A record has a level: a rank, by which loggers decide whether they take it, and
the name that is written for it. Some ranks have names of their own, and some
names have ranks; two of the names are second names of a rank.
-/

namespace SqlCompose

/-- The level of a record. -/
structure Level where
  rank : Int
  name : String
  deriving DecidableEq, Inhabited

namespace Level

/-- The ranks that have a name. -/
def rankNames : List (Int × String) :=
  [(50, "CRITICAL"), (40, "ERROR"), (30, "WARNING"), (20, "INFO"), (10, "DEBUG"), (0, "NOTSET")]

/-- The names that have a rank. -/
def nameRanks : List (String × Int) :=
  [("CRITICAL", 50), ("FATAL", 50), ("ERROR", 40), ("WARN", 30), ("WARNING", 30), ("INFO", 20),
   ("DEBUG", 10), ("NOTSET", 0)]

/-- The name of a rank; a rank without a name is described by its number, in the form that is
handed in. -/
def nameOf (rank : Int) (number : String) : String :=
  match rankNames.find? fun entry => entry.1 == rank with
  | some entry => entry.2
  | none => "Level " ++ number

/-- The level of a rank. -/
def ofRank (rank : Int) : Level := ⟨rank, nameOf rank (toString rank)⟩

/-- The rank that is registered under exactly this name. -/
def rankOf? (name : String) : Option Int :=
  (nameRanks.find? fun entry => entry.1 == name).map Prod.snd

/-- Messages about the inner workings. -/
def debug : Level := ofRank 10

/-- Ordinary messages. -/
def info : Level := ofRank 20

/-- What a logger without a level of its own takes: warnings and what is above them. -/
def warningRank : Int := 30

end Level

end SqlCompose
