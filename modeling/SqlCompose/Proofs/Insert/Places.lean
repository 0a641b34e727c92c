import SqlCompose.Proofs.Literal
import SqlCompose.Proofs.Refusal

/-!
# SqlCompose — what the calls of a run put into an INSERT statement

The columns and the values of an INSERT statement are two lists that grow apart:
in bulk, each by its own call, or together, by setting a single column. For a
run of calls this module says what was passed in bulk, at which places it was
put (`Insert.columnPlaces`, `Insert.valuePlaces`), and which columns were set.

* `Insert.isAccepted_assign`: setting a column is accepted exactly if the lists
  are equally long.
* `Insert.apply_cases`: a call appends what it adds to the two lists, or sets a
  column of an aligned statement.
-/

namespace SqlCompose

namespace Insert

/-! ## What the calls of a run pass and where it is put -/

/-- The columns that a call appends, as given. -/
def columnsGiven : Call → List Value
  | .columns items => items.listed
  | _ => []

/-- The values that a call appends, as given. -/
def valuesGiven : Call → List Value
  | .values items => items.listed
  | _ => []

/-- The columns that a call appends to a statement, if it is accepted. -/
def columnsAdded (text : Rendering) (s : Insert) (call : Call) : List Value :=
  if Run.isAccepted (apply text) s call then columnsGiven call else []

/-- The values that a call appends to a statement, if it is accepted. -/
def valuesAdded (text : Rendering) (s : Insert) (call : Call) : List Value :=
  if Run.isAccepted (apply text) s call then valuesGiven call else []

/-- All columns that accepted calls of a run passed, in order. -/
def columnsPassed (text : Rendering) (s : Insert) (calls : List Call) : List Value :=
  Run.noted (apply text) (columnsAdded text) s calls

/-- All values that accepted calls of a run passed, in order. -/
def valuesPassed (text : Rendering) (s : Insert) (calls : List Call) : List Value :=
  Run.noted (apply text) (valuesAdded text) s calls

/-- The places that the columns passed got: each call fills those behind what is there. -/
def columnPlaces (text : Rendering) (s : Insert) (calls : List Call) : List Nat :=
  Run.noted (apply text)
    (fun s call => List.range' s.columns.length (columnsAdded text s call).length) s calls

/-- The places that the values passed got. -/
def valuePlaces (text : Rendering) (s : Insert) (calls : List Call) : List Nat :=
  Run.noted (apply text)
    (fun s call => List.range' s.values.length (valuesAdded text s call).length) s calls

/-- In a run a column was set to a value after the `k`-th value had been passed. -/
def SetAfter (text : Rendering) (s : Insert) (calls : List Call) (k : Nat)
    (column value : Value) : Prop :=
  ∃ before rest, calls = before ++ .assign column value :: rest ∧
    Run.isAccepted (apply text) (Run.after (apply text) s before) (.assign column value) = true ∧
    k < (valuesPassed text s before).length

/-! ## What a call does -/

/-- Setting a column of an aligned statement is accepted. -/
theorem setValue_of_isAligned {text : Rendering} {s : Insert} (h : s.isAligned = true)
    (column value : Value) :
    setValue text column value s = (s.assign column value, ⟨.ok (), []⟩) := by
  show Work.andThen (Work.ofLogged (s.requireAligned text)) _ s = _
  rw [requireAligned_of_isAligned text h]
  rfl

/-- Setting a column of a statement that is not aligned is refused. -/
theorem result_setValue_of_not_isAligned {text : Rendering} {s : Insert}
    (h : ¬ s.isAligned = true) (column value : Value) :
    ∃ fault, (setValue text column value s).2.result = .error fault := by
  obtain ⟨fault, hFault⟩ := requireAligned_of_not_isAligned text h
  refine ⟨fault, ?_⟩
  show (Work.andThen (Work.ofLogged (s.requireAligned text)) _ s).2.result = _
  unfold Work.andThen
  simp only [Work.ofLogged, hFault]

/-- Setting a column is accepted exactly if the lists are equally long. -/
theorem isAccepted_assign (text : Rendering) (s : Insert) (column value : Value) :
    Run.isAccepted (apply text) s (.assign column value) = true ↔
      s.columns.length = s.values.length := by
  have hIff : s.isAligned = true ↔ s.columns.length = s.values.length := by
    rw [isAligned, beq_iff_eq]
  rw [← hIff, Run.isAccepted, apply, Answer.result_worked]
  by_cases h : s.isAligned = true
  · rw [setValue_of_isAligned h]
    exact ⟨fun _ => h, fun _ => rfl⟩
  · obtain ⟨fault, hFault⟩ := @result_setValue_of_not_isAligned text s h column value
    rw [hFault]
    exact ⟨fun hOk => absurd hOk Bool.false_ne_true, fun hOk => absurd hOk h⟩

/-- An aligned statement takes an assignment. -/
theorem state_assign_of_aligned {text : Rendering} {s : Insert}
    (h : s.columns.length = s.values.length) (column value : Value) :
    (s.apply text (.assign column value)).state = s.assign column value := by
  have hAligned : s.isAligned = true := by
    rw [isAligned, beq_iff_eq]
    exact h
  rw [apply, Answer.worked, setValue_of_isAligned hAligned]

/-- Columns are appended unless the argument is refused. -/
theorem apply_columns (text : Rendering) (s : Insert) (items : Value) :
    let change := (Argument.items "fields" items).map fun added (s : Insert) =>
      { s with columns := s.columns ++ added }
    (s.apply text (.columns items)).state = Answer.stateOf change s ∧
      (s.apply text (.columns items)).reply.result = Answer.resultOf change :=
  Answer.worked_require_change ..

/-- Values are appended unless the argument is refused. -/
theorem apply_values (text : Rendering) (s : Insert) (items : Value) :
    let change := (Argument.items "values" items).map fun added (s : Insert) =>
      { s with values := s.values ++ added }
    (s.apply text (.values items)).state = Answer.stateOf change s ∧
      (s.apply text (.values items)).reply.result = Answer.resultOf change :=
  Answer.worked_require_change ..

/-- A call that puts items into a statement puts in all that its argument lists, if it is
accepted. -/
theorem state_of_accepted_items {text : Rendering} {s : Insert} {call : Call} {clause : String}
    {items : Value} {put : List Value → Insert → Insert}
    (hCall : (s.apply text call).state =
        Answer.stateOf ((Argument.items clause items).map put) s ∧
      (s.apply text call).reply.result =
        Answer.resultOf ((Argument.items clause items).map put))
    (h : Run.isAccepted (apply text) s call = true) :
    (s.apply text call).state = put items.listed s := by
  obtain ⟨hState, hResult⟩ := hCall
  rw [Run.isAccepted, hResult] at h
  obtain ⟨added, hItems⟩ := Answer.exists_of_isOk h
  rw [hState, hItems, Argument.listed_of_items hItems]
  rfl

/-- A call either appends what it adds to the two lists, which may be nothing, or sets a column of
an aligned statement. -/
theorem apply_cases (text : Rendering) (s : Insert) (call : Call) :
    (s.apply text call).state =
        { s with columns := s.columns ++ columnsAdded text s call
                 values := s.values ++ valuesAdded text s call } ∨
      ∃ column value, call = .assign column value ∧
        s.columns.length = s.values.length ∧
        (s.apply text call).state = s.assign column value := by
  -- most calls append nothing to either list
  have hNothing : s =
      { s with columns := s.columns ++ ([] : List Value)
               values := s.values ++ ([] : List Value) } := by
    rw [List.append_nil, List.append_nil]
  by_cases hAccepted : Run.isAccepted (apply text) s call = true
  · rw [columnsAdded, valuesAdded, if_pos hAccepted, if_pos hAccepted]
    cases call with
    | columns items =>
      left
      rw [state_of_accepted_items (apply_columns text s items) hAccepted]
      simp only [columnsGiven, valuesGiven, List.append_nil]
    | values items =>
      left
      rw [state_of_accepted_items (apply_values text s items) hAccepted]
      simp only [columnsGiven, valuesGiven, List.append_nil]
    | assign column value =>
      have hLength := (isAccepted_assign text s column value).mp hAccepted
      exact Or.inr ⟨column, value, rfl, hLength, state_assign_of_aligned hLength column value⟩
    | _ => exact Or.inl hNothing
  · -- a refused call counts as one that appends nothing
    rw [columnsAdded, valuesAdded, if_neg hAccepted, if_neg hAccepted,
      state_of_refused hAccepted]
    exact Or.inl hNothing

/-- Setting a column appends nothing in bulk. -/
theorem added_assign (text : Rendering) (s : Insert) (column value : Value) :
    columnsAdded text s (.assign column value) = [] ∧
      valuesAdded text s (.assign column value) = [] :=
  ⟨ite_self _, ite_self _⟩

/-! ## Literal fragments -/

/-- What a literal call appends to either list is literal. -/
theorem isLiteral_of_mem_added {text : Rendering} {s : Insert} {call : Call} {v : Value}
    (h : call.isLiteral = true)
    (hv : v ∈ columnsAdded text s call ∨ v ∈ valuesAdded text s call) : v.isLiteral = true := by
  rw [columnsAdded, valuesAdded, List.mem_ite_nil_right, List.mem_ite_nil_right] at hv
  have hGiven : v ∈ columnsGiven call ∨ v ∈ valuesGiven call := hv.imp And.right And.right
  cases call with
  | columns items =>
    exact Value.isLiteral_of_mem_listed h (hGiven.resolve_right List.not_mem_nil)
  | values items =>
    exact Value.isLiteral_of_mem_listed h (hGiven.resolve_left List.not_mem_nil)
  | _ => exact hGiven.elim (absurd · List.not_mem_nil) (absurd · List.not_mem_nil)

/-- Setting a literal column to a literal value leaves literal fragments. -/
theorem Literal.assign {s : Insert} (h : s.Literal) {column value : Value}
    (hColumn : column.isLiteral = true) (hValue : value.isLiteral = true) :
    (s.assign column value).Literal := by
  rw [Insert.assign]
  cases columnIndex? column s.columns with
  | some index =>
    -- the values are those that were there, and the one that is set
    refine ⟨h.table, h.columns, ?_⟩
    intro v hv
    rcases List.mem_or_eq_of_mem_set hv with hOld | hNew
    · exact h.values v hOld
    · exact hNew ▸ hValue
  | none =>
    refine ⟨h.table, ?_, ?_⟩
    · intro c hc
      rcases List.mem_append.mp hc with hOld | hNew
      · exact h.columns c hOld
      · exact List.mem_singleton.mp hNew ▸ hColumn
    · intro v hv
      rcases List.mem_append.mp hv with hOld | hNew
      · exact h.values v hOld
      · exact List.mem_singleton.mp hNew ▸ hValue

/-- Calls with literal fragments leave literal fragments. -/
theorem Literal.apply {text : Rendering} {s : Insert} (h : s.Literal) {call : Call}
    (hCall : call.isLiteral = true) : (s.apply text call).state.Literal := by
  rcases apply_cases text s call with hAppended | ⟨column, value, rfl, -, hAssigned⟩
  · rw [hAppended]
    refine ⟨h.table, ?_, ?_⟩
    · intro c hc
      rcases List.mem_append.mp hc with hOld | hNew
      · exact h.columns c hOld
      · exact isLiteral_of_mem_added hCall (Or.inl hNew)
    · intro v hv
      rcases List.mem_append.mp hv with hOld | hNew
      · exact h.values v hOld
      · exact isLiteral_of_mem_added hCall (Or.inr hNew)
  · rw [hAssigned]
    rw [Call.isLiteral, Bool.and_eq_true] at hCall
    exact h.assign hCall.1 hCall.2

/-- A new statement holds nothing yet. -/
theorem create_eq {table : Value} {fresh : Insert} (h : create table = .ok fresh) :
    fresh = { table := table } ∧ table.isText = true :=
  Argument.eq_of_map_table h

theorem Literal.start {table : Value} (hTable : table.isText = true) :
    Insert.Literal { table := table } where
  table := hTable
  columns := fun c hc => by cases hc
  values := fun v hv => by cases hv

/-- No call changes the table. -/
theorem table_apply (text : Rendering) (s : Insert) (call : Call) :
    (s.apply text call).state.table = s.table := by
  rcases apply_cases text s call with hAppended | ⟨column, value, rfl, -, hAssigned⟩
  · rw [hAppended]
  · rw [hAssigned, Insert.assign]
    split <;> rfl

end Insert

end SqlCompose
