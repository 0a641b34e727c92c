import SqlCompose.Logged
import SqlCompose.Value.Equality
import SqlCompose.Value.Row

/-!
# SqlCompose — clauses

The pieces that the four kinds of statements are written with. A clause is a
keyword and a body behind a space, or nothing at all if its body is absent. All
fragments are written as they are given: nothing is quoted, escaped or parsed.

What stands for a fragment is taken when the clause is written, by a function
`text` that is handed in; for a fragment that is a statement it is the text of
that statement at that moment.
-/

namespace SqlCompose

namespace Clause

/-- What stands between two items of a list. -/
def separator : String := ", "

/-- What ends a statement. -/
def terminator : String := ";"

/-- A finished statement. -/
def terminate (sql : String) : String := sql ++ terminator

/-- A clause with a body that is already a text; an empty body leaves the clause out. -/
def optional (keyword body : String) : String :=
  if body = "" then "" else " " ++ keyword ++ " " ++ body

/-- Items in a row. -/
def list (items : List Value) : Except Fault String :=
  Value.joinedTexts separator items

/-- A clause with a list for its body. -/
def listClause (keyword : String) (items : List Value) : Except Fault String :=
  (list items).map (optional keyword)

/-- A condition is absent if it is null or the empty text. -/
def isAbsent : Value → Bool
  | .null => true
  | .text s => s == ""
  | _ => false

/-- A clause with a condition for its body. -/
def condition (text : Rendering) (keyword : String) (body : Value) : Logged String :=
  if isAbsent body then pure ""
  else do
    let written ← text body
    pure (" " ++ keyword ++ " " ++ written)

/-- An alias behind the thing that it names; a value that does not count as true is no alias. -/
def tableAlias (text : Rendering) (name : Value) : Logged String :=
  if name.isTrue then do
    let written ← text name
    pure (" AS " ++ written)
  else pure ""

/-- The keyword of a value that is a member of one of the closed sets. -/
def keywordOf (member : Value) : Except Fault String :=
  match member with
  | .join kind => .ok kind.keyword
  | .order direction => .ok direction.keyword
  | _ => .error (.noAttribute member "value")

/-- A join: its kind, the table with its alias, and the condition. -/
def join (text : Rendering) (kind table on name : Value) : Logged String := do
  let target ← text table
  let renamed ← tableAlias text name
  let keyword ← Logged.ofExcept (keywordOf kind)
  let written ← text on
  pure (" " ++ keyword ++ " JOIN " ++ target ++ renamed ++ " ON " ++ written)

/-- A term of an ordering: the column and the direction. -/
def orderTerm (text : Rendering) (column direction : Value) : Logged String := do
  let written ← text column
  let keyword ← Logged.ofExcept (keywordOf direction)
  pure (written ++ " " ++ keyword)

/-- An assignment of an update. -/
def assignment (text : Rendering) (column value : Value) : Logged String := do
  let left ← text column
  let right ← text value
  pure (left ++ " = " ++ right)

/-! ## Short forms -/

/-- The short form of a join. -/
def joinShown (plate : Nameplate) (kind table on name : Value) : String :=
  "Join(kind=" ++ kind.shown plate ++ ", table=" ++ table.shown plate ++ ", condition="
    ++ on.shown plate ++ ", alias=" ++ name.shown plate ++ ")"

/-- The short form of a term of an ordering. -/
def orderTermShown (plate : Nameplate) (column direction : Value) : String :=
  "OrderItem(column=" ++ column.shown plate ++ ", direction=" ++ direction.shown plate ++ ")"

/-! ## Lists with any separator -/

/-- Byte strings in a row; otherwise the first item that is none is named by its place. -/
def bytesFrom (glue : List UInt8) (index : Nat) : List Value → Except Fault (List UInt8)
  | [] => .ok []
  | .bytes content :: rest =>
    match bytesFrom glue (index + 1) rest with
    | .ok tail => .ok (content ++ (if rest.isEmpty then [] else glue) ++ tail)
    | .error fault => .error fault
  | item :: _ => .error (.notBytes index item)

/-- Items in a row with a separator of the caller's choice: texts between texts, or bytes between
bytes. -/
def joinItems (items glue : Value) : Except Fault Value :=
  match glue, glue.text? with
  | .bytes content, _ => match items.elements? with
    | some elements => (bytesFrom content 0 elements).map Value.bytes
    | none => .error .notJoinable
  | _, some s => match items.elements? with
    | some elements => (Value.joinedTexts s elements).map Value.text
    | none => .error .notJoinable
  | _, none => .error (.noAttribute glue "join")

/-- A clause with the items of any value for its body. -/
def itemsClause (keyword : String) (items : Value) : Except Fault String :=
  match items.elements? with
  | some elements => listClause keyword elements
  | none => .error .notJoinable

end Clause

end SqlCompose
