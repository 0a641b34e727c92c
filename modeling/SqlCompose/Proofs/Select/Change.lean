import SqlCompose.Proofs.Run
import SqlCompose.Statement.Select

/-!
# SqlCompose — what a call changes in a SELECT statement

A call on a SELECT statement is checked by its arguments alone: whether it is
accepted, and what it changes, does not depend on the clauses that are there
(`Select.change`). What is reported to the log does, but no clause and no answer
depends on that.

* `Select.state_apply`: a call leaves the changed statement, or the same one if
  it is refused.
* `Select.result_apply`: every call but building answers with the statement
  itself or with the refusal.
-/

namespace SqlCompose

/-! ## The calls -/

namespace Select

/-- The change that a call asks for, or why it is refused. -/
def change : Call → Except Fault (Select → Select)
  | .tableAlias name => .ok fun s => { s with tableAlias := name }
  | .columns items =>
    (Argument.items "fields" items).map fun added s => { s with columns := s.columns ++ added }
  | .join kind table condition tableAlias =>
    (Argument.joinKind kind).map fun kind s =>
      { s with joins := s.joins ++ [⟨kind, table, condition, tableAlias⟩] }
  | .joinOf kind table condition tableAlias =>
    .ok fun s => { s with joins := s.joins ++ [⟨kind, table, condition, tableAlias⟩] }
  | .condition body => .ok fun s => { s with condition := body }
  | .groupColumns items =>
    (Argument.items "GROUP BY" items).map fun added s =>
      { s with groupColumns := s.groupColumns ++ added }
  | .groupCondition body => .ok fun s => { s with groupCondition := body }
  | .orderTerm column direction =>
    (Argument.sortOrder direction).map fun direction s =>
      { s with orderTerms := s.orderTerms ++ [⟨column, direction⟩] }
  | .limit count =>
    (Argument.count "LIMIT" count).map fun n s => { s with limit := some n }
  | .offset count =>
    (Argument.count "OFFSET" count).map fun n s => { s with offset := some n }
  | .build => .ok id
  | .values items => .error (.noSlot StatementKind.select.className (Call.values items).name)
  | .assign column value =>
    .error (.noSlot StatementKind.select.className (Call.assign column value).name)

variable {text : Rendering} {s : Select}

/-- Every call but building is answered by its change. -/
theorem apply_eq_change {call : Call} (h : call ≠ .build) :
    (s.apply text call).state = Answer.stateOf (change call) s ∧
      (s.apply text call).reply.result = Answer.resultOf (change call) := by
  cases call with
  | tableAlias name => exact ⟨rfl, rfl⟩
  | columns items => exact Answer.worked_require_change ..
  | values items => exact ⟨rfl, rfl⟩
  | assign column value => exact ⟨rfl, rfl⟩
  | join kind table condition tableAlias => exact Answer.worked_require_change ..
  | joinOf kind table condition tableAlias => exact ⟨rfl, rfl⟩
  -- that a condition is replaced is reported, but it is no part of the result
  | condition body => exact Answer.worked_replace ..
  | groupColumns items => exact Answer.worked_require_change ..
  | groupCondition body => exact Answer.worked_replace ..
  | orderTerm column direction => exact Answer.worked_require_change ..
  | limit count => exact Answer.worked_require_change ..
  | offset count => exact Answer.worked_require_change ..
  | build => exact absurd rfl h

/-- A call leaves the changed statement; a call that is refused, or that builds the text, leaves the
statement as it was. -/
theorem state_apply (call : Call) :
    (s.apply text call).state = Answer.stateOf (change call) s := by
  by_cases h : call = .build
  · rw [h]
    rfl
  · exact (apply_eq_change h).1

/-- Every call but building answers with the statement itself, or with why it is refused. -/
theorem result_apply {call : Call} (h : call ≠ .build) :
    (s.apply text call).reply.result = Answer.resultOf (change call) :=
  (apply_eq_change h).2

end Select

end SqlCompose
