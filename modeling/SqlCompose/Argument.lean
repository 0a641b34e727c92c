import SqlCompose.Fault
import SqlCompose.Value.Equality

/-!
# SqlCompose — what the places of a statement accept

Most places of a statement accept every value. The few that do not are checked
here: the table, the two counts, lists of fragments, the kind of a join and the
direction of an ordering.
-/

namespace SqlCompose

namespace Argument

/-- A table is a text that is not blank. -/
def table (given : Value) : Except Fault Value :=
  match given.text? with
  | some s => if Text.isAllBlank s then .error (.blankTable given) else .ok given
  | none => .error (.blankTable given)

/-- A count is an integer that is not negative; truth values do not count as integers here. It is
taken as it is given, whatever type of integer it is of. -/
def count (clause : String) (given : Value) : Except Fault Value :=
  match given, given.int? with
  | .bool _, _ => .error (.notCount clause given)
  | _, some n => if n < 0 then .error (.negativeCount clause given) else .ok given
  | _, none => .error (.notCount clause given)

/-- A list of fragments is whatever can be gone through, except a text: a text in that place is
taken for a forgotten bracket. -/
def items (clause : String) (given : Value) : Except Fault (List Value) :=
  if given.isText then .error (.bareText clause given)
  else match given.elements? with
    | some elements => .ok elements
    | none => .error (.notIterable given)

/-- The kind of a join, given as a member or as a word. -/
def joinKind (given : Value) : Except Fault JoinKind :=
  match given with
  | .join kind => .ok kind
  | _ => match given.text?.bind JoinKind.ofWord? with
    | some kind => .ok kind
    | none => .error (.unknownJoinKind given)

/-- The direction of an ordering, given as a member or as a word. -/
def sortOrder (given : Value) : Except Fault SortOrder :=
  match given with
  | .order direction => .ok direction
  | _ => match given.text?.bind SortOrder.ofWord? with
    | some direction => .ok direction
    | none => .error (.unknownSortOrder given)

/-- The join kind that is the value, or whose keyword is the value; words are not accepted. -/
def exactJoinKind (given : Value) : Except Fault JoinKind :=
  match given with
  | .join kind => .ok kind
  | .text s => match JoinKind.ofKeyword? s with
    | some kind => .ok kind
    | none => .error (.notMember JoinKind.setName given)
  | _ => .error (.notMember JoinKind.setName given)

/-- The direction that is the value, or whose keyword is the value; words are not accepted. -/
def exactSortOrder (given : Value) : Except Fault SortOrder :=
  match given with
  | .order direction => .ok direction
  | .text s => match SortOrder.ofKeyword? s with
    | some direction => .ok direction
    | none => .error (.notMember SortOrder.setName given)
  | _ => .error (.notMember SortOrder.setName given)

end Argument

end SqlCompose
