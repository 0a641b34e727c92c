import SqlCompose.Decimal.Notation
import SqlCompose.Text.Quoted
import SqlCompose.Value.Basic

/-!
# SqlCompose — how values are shown

A value has a short form, in which texts are quoted and containers bracketed
(`Value.shown`), and a plain form, in which a text stands for itself
(`Value.plain`). Error messages use the short form, log lines the plain one.
Where a value is put into a text, as in a statement, its plain form stands for
it, unless it is of a type that has chosen something else (`Value.formatted`).
What is shown for a statement depends on the collection that holds it, so all of
them take a `Nameplate`.
-/

namespace SqlCompose

/-- What is known of the statements that values refer to: the name of the class of each, and its
short form. -/
structure Nameplate where
  className : StatementRef → String
  shown : StatementRef → String

/-- The nameplate for values that refer to no statement. -/
def Nameplate.blank : Nameplate := ⟨fun _ => "object", fun _ => "object"⟩

namespace Value

/-- The name of the type of a value. -/
def typeName (plate : Nameplate) : Value → String
  | null => "NoneType"
  | bool _ => "bool"
  | int _ => "int"
  | float _ => "float"
  | text _ => "str"
  | bytes _ => "bytes"
  | list _ => "list"
  | tuple _ => "tuple"
  | set _ => "set"
  | dict _ => "dict"
  | iterator _ => "list_iterator"
  | join _ => JoinKind.setName
  | order _ => SortOrder.setName
  | statement ref => plate.className ref
  | object o => o.typeName

/-- The name of a truth value. -/
def truthName (b : Bool) : String := if b then "True" else "False"

/-- Texts in a row, separated by a comma and a space. -/
def commaSeparated (parts : List String) : String := ", ".intercalate parts

/-- A member of a closed set by its set and its name. -/
def memberName (setName name : String) : String := setName ++ "." ++ name

/-- The short form of a member: its name, and its keyword in quotes. -/
def memberShown (setName name keyword : String) : String :=
  "<" ++ memberName setName name ++ ": " ++ Text.quoted keyword ++ ">"

/-- A tuple of shown elements; a single element is followed by a comma. -/
def tupleShown : List String → String
  | [one] => "(" ++ one ++ ",)"
  | parts => "(" ++ commaSeparated parts ++ ")"

/-- A set of shown elements; the empty set has a word of its own. -/
def setShown : List String → String
  | [] => "set()"
  | parts => "\x7b" ++ commaSeparated parts ++ "\x7d"

mutual

/-- The short form of a value. -/
def shown (plate : Nameplate) : Value → String
  | null => "None"
  | bool b => truthName b
  | int n => toString n
  | float x => x.text
  | text s => Text.quoted s
  | bytes content => Text.quotedBytes content
  | list items => "[" ++ commaSeparated (shownAll plate items) ++ "]"
  | tuple items => tupleShown (shownAll plate items)
  | set items => setShown (shownAll plate items)
  | dict entries => "\x7b" ++ commaSeparated (shownEntries plate entries) ++ "\x7d"
  | iterator _ => "<list_iterator object>"
  | join kind => memberShown JoinKind.setName kind.name kind.keyword
  | order direction => memberShown SortOrder.setName direction.name direction.keyword
  | statement ref => plate.shown ref
  | object o => o.shown

/-- The short forms of several values. -/
def shownAll (plate : Nameplate) : List Value → List String
  | [] => []
  | v :: vs => shown plate v :: shownAll plate vs

/-- The short forms of the entries of a dictionary. -/
def shownEntries (plate : Nameplate) : List (Value × Value) → List String
  | [] => []
  | (key, v) :: rest =>
    (shown plate key ++ ": " ++ shown plate v) :: shownEntries plate rest

end

/-- The plain form of a value that is no statement: a text stands for itself, and a member of a
closed set shows its name. -/
def plain (plate : Nameplate) : Value → String
  | text s => s
  | join kind => memberName JoinKind.setName kind.name
  | order direction => memberName SortOrder.setName direction.name
  | object o => o.plain
  | v => shown plate v

/-- What stands for a value that is no statement where it is put into a text. -/
def formatted (plate : Nameplate) : Value → String
  | object o => o.formatted
  | v => plain plate v

end Value

end SqlCompose
