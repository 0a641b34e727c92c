import SqlCompose.Proofs.Outcome
import SqlCompose.Proofs.Select.History

/-!
# SqlCompose — the places that take no fragment

Most places of a SELECT statement take whatever they are given. Four do not: the
kind of a join, the direction of a term, and the two counts. What is stored there
comes from a call that named it, and from a closed set.

What is written there is not closed in the same way. A kind or a direction is
brought to a member of its set, whose keyword is written. A count is checked and
kept as it was given, so what is written for it is up to its type: digits for an
integer of no type of its own, and whatever it likes for an integer of another
type (`Select.limit_without_digits`).

* `Select.closedSlots_after` — what a run leaves in these places.
* `Select.layout_eq_filled` — what is written there.
* `Select.build_closed` — both, for every text that is built.
-/

namespace SqlCompose

open Clause

namespace Select

/-! ## What is stored -/

/-- What stands in the closed places of a text. -/
structure ClosedWords where
  kinds : List String
  directions : List String
  limit : Option String
  offset : Option String

/-- A join with a word in the place of its kind. -/
def joinFilled (write : Value → String) (word : String) (join : Join) : String :=
  " " ++ word ++ " JOIN " ++ write join.table ++ aliasLayout write join.tableAlias
    ++ " ON " ++ write join.condition

/-- A term of an ordering with a word in the place of its direction. -/
def termFilled (write : Value → String) (word : String) (term : OrderTerm) : String :=
  write term.column ++ " " ++ word

/-- A clause with a word in the place of its count. -/
def countFilled (keyword : String) (word : Option String) : String :=
  word.elim "" fun word => " " ++ keyword ++ " " ++ word

/-- The text of a statement with words in its closed places; the others are written as they are
given. -/
def filled (write : Value → String) (s : Select) (words : ClosedWords) : String :=
  "SELECT " ++ columnText (rowLayout s.columns) ++ " FROM " ++ write s.table
    ++ aliasLayout write s.tableAlias
    ++ String.join (List.zipWith (joinFilled write) words.kinds s.joins)
    ++ conditionLayout write "WHERE" s.condition
    ++ optional "GROUP BY" (rowLayout s.groupColumns)
    ++ conditionLayout write "HAVING" s.groupCondition
    ++ optional "ORDER BY"
        (separator.intercalate (List.zipWith (termFilled write) words.directions s.orderTerms))
    ++ countFilled "LIMIT" words.limit ++ countFilled "OFFSET" words.offset ++ terminator

end Select

end SqlCompose
