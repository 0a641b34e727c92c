import SqlCompose.Decimal.Binary64
import SqlCompose.Token

/-!
# SqlCompose — values

Whatever a caller hands over for a place in a statement or in a log record is a
`Value`. Statements check little of what they are given: most places take any
value and show it when the statement is rendered, so the library works on the
whole universe of values and not on texts alone.

A statement is itself a value. It is passed by reference: the value names an
entry of the collection of statements, whose content may still change.

The types that the library knows are not all that there are. Of a value of
another type no more is known than what it answers when it is asked (`Object`):
whether it counts as true, which integer it is, and what it is shown as.
-/

namespace SqlCompose

/-- The place of a statement in the collection that holds it. -/
abbrev StatementRef := Nat

/-- A value of a type of its own, by its answers. It is no text and no container; if its type
extends that of the integers, it is an integer. -/
structure Object where
  /-- Tells it from others that answer alike. -/
  identity : Nat
  typeName : String
  isTrue : Bool
  /-- The integer that it is, if it is one. -/
  number? : Option Int
  /-- Its text. -/
  plain : String
  /-- What stands for it where it is put into a text. It may choose that apart from its text. -/
  formatted : String
  /-- Its short form. -/
  shown : String
  deriving DecidableEq, Inhabited

/-- What may be handed over as a fragment, an argument or a field. -/
inductive Value where
  | null
  | bool (b : Bool)
  | int (n : Int)
  | float (x : Binary64)
  | text (s : String)
  | bytes (content : List UInt8)
  | list (items : List Value)
  | tuple (items : List Value)
  | set (items : List Value)
  | dict (entries : List (Value × Value))
  /-- A sequence that can be gone through once. -/
  | iterator (items : List Value)
  | join (kind : JoinKind)
  | order (direction : SortOrder)
  | statement (ref : StatementRef)
  /-- A value of another type. -/
  | object (o : Object)
  deriving Inhabited

namespace Value

/-- The text of a value that counts as text: a text itself, or the keyword of a member of one of
the closed sets. -/
def text? : Value → Option String
  | text s => some s
  | join kind => some kind.keyword
  | order direction => some direction.keyword
  | _ => none

/-- A value that counts as text. -/
def isText (v : Value) : Bool := v.text?.isSome

/-- What going through a value yields, if it can be gone through: a text its characters, a byte
string its bytes as integers, a dictionary its keys. -/
def elements? : Value → Option (List Value)
  | list items => some items
  | tuple items => some items
  | set items => some items
  | iterator items => some items
  | dict entries => some (entries.map Prod.fst)
  | bytes content => some (content.map fun b => int b.toNat)
  | text s => some (s.toList.map fun c => text (String.singleton c))
  | join kind => some (kind.keyword.toList.map fun c => text (String.singleton c))
  | order direction => some (direction.keyword.toList.map fun c => text (String.singleton c))
  | _ => none

/-- Whether a value counts as true: zero, the empty text and empty containers do not. -/
def isTrue : Value → Bool
  | null => false
  | bool b => b
  | int n => n != 0
  | float x => x.isTrue
  | text s => s != ""
  | bytes content => !content.isEmpty
  | list items => !items.isEmpty
  | tuple items => !items.isEmpty
  | set items => !items.isEmpty
  | dict entries => !entries.isEmpty
  | object o => o.isTrue
  | _ => true

/-- The null value. -/
def isNull : Value → Bool
  | null => true
  | _ => false

/-- The integer of a value that counts as one; the truth values are one and zero. -/
def int? : Value → Option Int
  | int n => some n
  | bool b => some (if b then 1 else 0)
  | object o => o.number?
  | _ => none

end Value

end SqlCompose
