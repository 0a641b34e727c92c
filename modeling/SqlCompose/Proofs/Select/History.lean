import SqlCompose.Proofs.Literal
import SqlCompose.Proofs.Select.Change

/-!
# SqlCompose — the history of a SELECT statement determines its text

The clauses of a SELECT statement are nine, and the calls that set them may come
in any order, with refused calls in between. Three rules say what the calls that
were accepted add up to (`Select.ofHistory`):

* columns, joins, grouping columns and terms of the ordering are appended;
* the alias and the two conditions are those of the last call, also when that
  call takes them away;
* the two counts are those of the last call that was accepted.

Main results:

* `Select.after_eq_ofHistory` — a run leaves exactly what its accepted calls add
  up to, whatever the arguments are.
* `Select.build_after_run` — with literal fragments the text after a run is the
  concatenation of the clauses of its accepted calls, in the fixed order.
-/

namespace SqlCompose

namespace Select

/-! ## What a history adds up to -/

/-- The value that the last of some calls was given; null if there was none. -/
def latest (given? : Call → Option Value) (history : List Call) : Value :=
  (history.filterMap given?).getLast?.getD .null

/-- The alias that a call gives. -/
@[simp] def aliasGiven? : Call → Option Value
  | .tableAlias name => some name
  | _ => none

/-- The WHERE condition that a call gives. -/
@[simp] def conditionGiven? : Call → Option Value
  | .condition body => some body
  | _ => none

/-- The HAVING condition that a call gives. -/
@[simp] def groupConditionGiven? : Call → Option Value
  | .groupCondition body => some body
  | _ => none

/-- The columns that a call appends. -/
@[simp] def columnsGiven : Call → List Value
  | .columns items => items.listed
  | _ => []

/-- The grouping columns that a call appends. -/
@[simp] def groupColumnsGiven : Call → List Value
  | .groupColumns items => items.listed
  | _ => []

/-- The join that a call appends; a kind given by a word is the kind that the word names. -/
@[simp] def joinGiven? : Call → Option Join
  | .join kind table condition tableAlias =>
    (Argument.joinKind kind).toOption.map fun kind => ⟨kind, table, condition, tableAlias⟩
  | .joinOf kind table condition tableAlias => some ⟨kind, table, condition, tableAlias⟩
  | _ => none

/-- The term that a call appends to the ordering. -/
@[simp] def orderTermGiven? : Call → Option OrderTerm
  | .orderTerm column direction =>
    (Argument.sortOrder direction).toOption.map fun direction => ⟨column, direction⟩
  | _ => none

/-- The count that a call gives for LIMIT. -/
@[simp] def limitGiven? : Call → Option Value
  | .limit count => (Argument.count "LIMIT" count).toOption
  | _ => none

/-- The count that a call gives for OFFSET. -/
@[simp] def offsetGiven? : Call → Option Value
  | .offset count => (Argument.count "OFFSET" count).toOption
  | _ => none

/-- The statement that a history of accepted calls adds up to. -/
def ofHistory (table : Value) (history : List Call) : Select where
  table := table
  tableAlias := latest aliasGiven? history
  columns := history.flatMap columnsGiven
  joins := history.filterMap joinGiven?
  condition := latest conditionGiven? history
  groupColumns := history.flatMap groupColumnsGiven
  groupCondition := latest groupConditionGiven? history
  orderTerms := history.filterMap orderTermGiven?
  limit := (history.filterMap limitGiven?).getLast?
  offset := (history.filterMap offsetGiven?).getLast?

end Select

/-- A mapped result that is there comes from one that is there. -/
theorem exists_of_map_eq_ok {α β : Type} {e : Except Fault α} {g : α → β} {b : β}
    (h : e.map g = .ok b) : ∃ a, e = .ok a ∧ g a = b := by
  cases e with
  | ok a => exact ⟨a, rfl, Except.ok.inj h⟩
  | error fault => cases h

namespace Select

/-- One more accepted call changes what the history adds up to as it changes the statement. -/
theorem ofHistory_concat {call : Call} {f : Select → Select} (h : change call = .ok f)
    (table : Value) (history : List Call) :
    ofHistory table (history ++ [call]) = f (ofHistory table history) := by
  cases call with
  | tableAlias name =>
    -- the last one counts
    cases h
    simp [ofHistory, latest]
  | columns items =>
    -- what is accepted as a list has the items that it stands for
    obtain ⟨added, hItems, rfl⟩ := exists_of_map_eq_ok h
    simp [ofHistory, latest, Argument.listed_of_items hItems]
  -- calls for other kinds of statements are never accepted
  | values items => cases h
  | assign column value => cases h
  | join kind on condition name =>
    -- the kind that was named when the call was checked is the kind of the join
    obtain ⟨joinKind, hKind, rfl⟩ := exists_of_map_eq_ok h
    simp [ofHistory, latest, hKind, Except.toOption]
  | joinOf kind on condition name =>
    cases h
    simp [ofHistory, latest]
  | condition body =>
    cases h
    simp [ofHistory, latest]
  | groupColumns items =>
    obtain ⟨added, hItems, rfl⟩ := exists_of_map_eq_ok h
    simp [ofHistory, latest, Argument.listed_of_items hItems]
  | groupCondition body =>
    cases h
    simp [ofHistory, latest]
  | orderTerm column direction =>
    obtain ⟨order, hOrder, rfl⟩ := exists_of_map_eq_ok h
    simp [ofHistory, latest, hOrder, Except.toOption]
  | limit count =>
    -- the last count that was accepted counts
    obtain ⟨checked, hCount, rfl⟩ := exists_of_map_eq_ok h
    simp [ofHistory, latest, hCount, Except.toOption]
  | offset count =>
    obtain ⟨checked, hCount, rfl⟩ := exists_of_map_eq_ok h
    simp [ofHistory, latest, hCount, Except.toOption]
  | build =>
    cases h
    simp [ofHistory, latest]

/-- Building the text is a call that sets no clause. -/
theorem ofHistory_concat_build (table : Value) (history : List Call) :
    ofHistory table (history ++ [.build]) = ofHistory table history := by
  have hChange : change .build = .ok id := rfl
  exact ofHistory_concat hChange table history

/-! ## Runs -/

/-- A call on what a history adds up to leaves what the history adds up to with the call in it, if
it is accepted. -/
theorem state_apply_ofHistory (text : Rendering) (table : Value) (history : List Call)
    (call : Call) :
    ((ofHistory table history).apply text call).state =
      ofHistory table (history ++
        if Run.isAccepted (apply text) (ofHistory table history) call then [call] else []) := by
  by_cases hBuild : call = .build
  · -- accepted or not, building leaves the clauses alone
    rw [hBuild]
    split
    · rw [ofHistory_concat_build]
      rfl
    · rw [List.append_nil]
      rfl
  · rw [state_apply, Run.isAccepted, result_apply hBuild]
    cases hChange : change call with
    | ok f => exact (ofHistory_concat hChange table history).symm
    | error fault => exact congrArg (ofHistory table) (List.append_nil history).symm

/-- A run leaves what its accepted calls add up to, after the calls that led to its start. -/
theorem after_eq_ofHistory (text : Rendering) (table : Value) (history calls : List Call) :
    Run.after (apply text) (ofHistory table history) calls =
      ofHistory table (history ++ Run.accepted (apply text) (ofHistory table history) calls) := by
  induction calls generalizing history with
  | nil => exact congrArg (ofHistory table) (List.append_nil history).symm
  | cons call rest ih =>
    rw [Run.after_cons, state_apply_ofHistory, ih, Run.accepted_cons, state_apply_ofHistory,
      List.append_assoc]

/-! ## Histories of literal fragments -/

theorem latest_literal {given? : Call → Option Value} {history : List Call}
    (h : ∀ call ∈ history, ∀ v, given? call = some v → v.isLiteralOrNull = true) :
    (latest given? history).isLiteralOrNull = true := by
  rw [latest]
  cases hLast : (history.filterMap given?).getLast? with
  | none => rfl
  | some v =>
    have hMem := List.mem_of_getLast? hLast
    obtain ⟨call, hCall, hGiven⟩ := List.mem_filterMap.mp hMem
    exact h call hCall v hGiven

/-- Calls with literal fragments add up to a statement of literal fragments. -/
theorem ofHistory_literal {table : String} {history : List Call}
    (h : ∀ call ∈ history, call.isLiteral = true) : (ofHistory (.text table) history).Literal where
  table := rfl
  tableAlias := latest_literal fun call hCall v hGiven => by
    have hLiteral := h call hCall
    cases call <;> cases hGiven
    exact hLiteral
  columns := fun v hv => by
    obtain ⟨call, hCall, hGiven⟩ := List.mem_flatMap.mp hv
    have hLiteral := h call hCall
    cases call with
    | columns items => exact Value.isLiteral_of_mem_listed hLiteral hGiven
    | _ => cases hGiven
  joins := fun join hJoin => by
    obtain ⟨call, hCall, hGiven⟩ := List.mem_filterMap.mp hJoin
    have hLiteral := h call hCall
    cases call with
    | join kind target on name =>
      obtain ⟨joinKind, -, rfl⟩ := Option.map_eq_some_iff.mp hGiven
      simp only [Call.isLiteral, Bool.and_eq_true] at hLiteral
      exact ⟨hLiteral.1.1, hLiteral.1.2, hLiteral.2⟩
    | joinOf kind target on name =>
      cases hGiven
      simp only [Call.isLiteral, Bool.and_eq_true] at hLiteral
      exact ⟨hLiteral.1.1, hLiteral.1.2, hLiteral.2⟩
    | _ => cases hGiven
  condition := latest_literal fun call hCall v hGiven => by
    have hLiteral := h call hCall
    cases call <;> cases hGiven
    exact hLiteral
  groupColumns := fun v hv => by
    obtain ⟨call, hCall, hGiven⟩ := List.mem_flatMap.mp hv
    have hLiteral := h call hCall
    cases call with
    | groupColumns items => exact Value.isLiteral_of_mem_listed hLiteral hGiven
    | _ => cases hGiven
  groupCondition := latest_literal fun call hCall v hGiven => by
    have hLiteral := h call hCall
    cases call <;> cases hGiven
    exact hLiteral
  orderTerms := fun term hTerm => by
    obtain ⟨call, hCall, hGiven⟩ := List.mem_filterMap.mp hTerm
    have hLiteral := h call hCall
    cases call with
    | orderTerm column direction =>
      obtain ⟨order, -, rfl⟩ := Option.map_eq_some_iff.mp hGiven
      exact hLiteral
    | _ => cases hGiven

/-! ## The text -/

/-- A text that is not blank makes a new statement, which is what no calls add up to. -/
theorem create_text {table : String} (h : Text.isAllBlank table = false) :
    create (.text table) = .ok (ofHistory (.text table) []) := by
  rw [create, Argument.table, Value.text?]
  simp only [h, Bool.false_eq_true, if_false]
  rfl

/-- **The history determines the text.** After any run of calls with literal fragments, in any order
and with refused calls in between, a SELECT statement is built, and its text is the concatenation of
the clauses that the accepted calls add up to. -/
theorem build_after_run (store : Store) {table : String} (hTable : Text.isAllBlank table = false)
    {calls : List Call} (hCalls : ∀ call ∈ calls, call.isLiteral = true) :
    ∃ fresh, create (.text table) = .ok fresh ∧
      ((Run.after (apply store.text) fresh calls).apply store.text .build).reply.result =
        .ok (.built (ofHistory (.text table)
          (Run.accepted (apply store.text) fresh calls)).literalText) := by
  refine ⟨_, create_text hTable, ?_⟩
  -- what the run leaves is what its accepted calls add up to
  have hAfter := after_eq_ofHistory store.text (.text table) [] calls
  rw [List.nil_append] at hAfter
  rw [hAfter]
  -- accepted calls are calls of the run, so all fragments are literal
  have hLiteral : (ofHistory (.text table)
      (Run.accepted (apply store.text) (ofHistory (.text table) []) calls)).Literal :=
    ofHistory_literal fun call hCall =>
      hCalls call (Run.mem_of_mem_accepted (apply store.text) hCall)
  rw [apply, Answer.result_built, render_literal store hLiteral]
  rfl

/-- A run with a count replaced and one refused, a kind that is no kind, a bare text in place of a
list, an alias taken back and a grouping by an empty text only. -/
def ordersRun : List Call :=
  [.limit (.int 7), .orderTerm (.text "id") (.text " desc "), .tableAlias (.text "o"),
    .join (.text "outer") (.text "x") (.text "y") .null, .limit (.int 0), .limit (.int (-1)),
    .join (.text "left") (.text "users") (.text "u.id = o.uid") (.text "u"),
    .columns (.list [.text "id"]), .columns (.text "name"), .tableAlias .null,
    .groupColumns (.tuple [.text ""]), .condition (.text "a > 1"),
    .columns (.tuple [.text "total"])]

theorem build_after_ordersRun :
    ∃ fresh, create (.text "orders") = .ok fresh ∧
      ((Run.after (apply (Store.text {})) fresh ordersRun).apply (Store.text {})
        .build).reply.result =
        .ok (.built ("SELECT id, total FROM orders LEFT JOIN users AS u ON u.id = o.uid" ++
          " WHERE a > 1 ORDER BY id DESC LIMIT 0;")) := by
  have hTable : Text.isAllBlank "orders" = false := by decide
  have hCalls : ∀ call ∈ ordersRun, call.isLiteral = true := by decide
  obtain ⟨fresh, hCreate, hBuild⟩ := build_after_run {} hTable hCalls
  refine ⟨fresh, hCreate, hBuild.trans ?_⟩
  cases hCreate
  rfl

end Select

end SqlCompose
