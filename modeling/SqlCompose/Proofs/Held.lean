import Mathlib.Tactic.Tauto
import SqlCompose.Proofs.Select.History
import SqlCompose.Proofs.Slots

/-!
# SqlCompose — what a statement holds was handed over

The values that a statement holds come from the table that it was created on
and from the arguments of its calls, and from nowhere else; they are kept as
they were given. So whatever is true of all values that are handed over, in the
role in which they are handed over, is true of all values that a statement holds
after any run of calls, refused ones included.

The values are told by their role (`Role`): the table, an item of a list, a part
that is always written, one that may be absent, or a count. They are listed in the order
in which they are written (`Statement.held`).

Main results:

* `Statement.held_apply` — after a call a statement holds what it held before
  and what the call handed over.
* `Statement.forall_held_after` — so it is with everything that it holds after a
  run.
-/

namespace SqlCompose

/-! ## Fragments -/

/-- How a statement uses a value that it holds. -/
inductive Role where
  | table
  /-- One of a list that is written in a row; only texts can be. -/
  | item
  /-- Written whatever it is. -/
  | part
  /-- An alias or a condition, which is left out if it is absent. -/
  | optional
  /-- The count of a LIMIT or OFFSET clause. -/
  | count
  deriving DecidableEq

/-- A value in its role. -/
structure Fragment where
  role : Role
  value : Value

/-- The statement that a value is. -/
def Value.reference? : Value → Option StatementRef
  | .statement ref => some ref
  | _ => none

namespace Fragment

/-- The items of a list. -/
def items (row : List Value) : List Fragment := row.map fun v => ⟨.item, v⟩

/-- The column and the value of an assignment. -/
def ofEntry (entry : Value × Value) : List Fragment := [⟨.part, entry.1⟩, ⟨.part, entry.2⟩]

/-- The count of a clause that may have none. -/
def ofCount (count : Option Value) : List Fragment := count.toList.map fun v => ⟨.count, v⟩

/-- The statement that is written out where the fragment stands. In a list nothing is written out:
a statement there is an item that is no text, like any other. No statement is a count. -/
def reference? : Fragment → Option StatementRef
  | ⟨.item, _⟩ => none
  | ⟨.count, _⟩ => none
  | ⟨_, v⟩ => v.reference?

/-- The fragments of a list are its items. -/
theorem mem_items {f : Fragment} {row : List Value} :
    f ∈ items row ↔ ∃ v ∈ row, f = ⟨.item, v⟩ := by
  simp [items, eq_comm]

end Fragment

open Fragment

/-! ## What is held and what is handed over

The fragments of a statement are listed in the order in which they are written.
-/

def Join.held (join : Join) : List Fragment :=
  [⟨.part, join.table⟩, ⟨.optional, join.tableAlias⟩, ⟨.part, join.condition⟩]

def Select.held (s : Select) : List Fragment :=
  items s.columns ++ [⟨.table, s.table⟩, ⟨.optional, s.tableAlias⟩] ++ s.joins.flatMap Join.held
    ++ [⟨.optional, s.condition⟩] ++ items s.groupColumns ++ [⟨.optional, s.groupCondition⟩]
    ++ s.orderTerms.map (fun term => ⟨.part, term.column⟩)
    ++ ofCount s.limit ++ ofCount s.offset

def Insert.held (s : Insert) : List Fragment :=
  ⟨.table, s.table⟩ :: (items s.columns ++ items s.values)

/-- The assignments are put together before the table is looked at. -/
def Update.held (s : Update) : List Fragment :=
  s.assignments.flatMap ofEntry ++ [⟨.table, s.table⟩, ⟨.optional, s.condition⟩]

def Delete.held (s : Delete) : List Fragment := [⟨.table, s.table⟩, ⟨.optional, s.condition⟩]

/-- The fragments of a statement, as they are written. -/
def Statement.held : Statement → List Fragment
  | select s => s.held
  | insert s => s.held
  | update s => s.held
  | delete s => s.held

/-- The statements that are written out as a part of a statement, in the order of writing. -/
def Statement.references (s : Statement) : List StatementRef := s.held.filterMap Fragment.reference?

/-- The pairs of a column and a value among several assignments; what is no pair is refused. -/
def Update.pairsGiven (given : Value) : List (Value × Value) :=
  match assignmentItems given with
  | .ok items => items.filterMap pair?
  | .error _ => []

/-- The fragments that a call hands over to a statement of a kind. A count that is refused is not
handed over. -/
def Call.handed (kind : StatementKind) : Call → List Fragment
  | .tableAlias name => [⟨.optional, name⟩]
  | .columns given =>
    match kind with
    | .update => (Update.pairsGiven given).flatMap ofEntry
    | _ => items given.listed
  | .values given => items given.listed
  | .assign column value =>
    match kind with
    | .insert => items [column, value]
    | _ => ofEntry (column, value)
  | .join _ table on name => [⟨.part, table⟩, ⟨.optional, name⟩, ⟨.part, on⟩]
  | .joinOf _ table on name => [⟨.part, table⟩, ⟨.optional, name⟩, ⟨.part, on⟩]
  | .condition body => [⟨.optional, body⟩]
  | .groupColumns given => items given.listed
  | .groupCondition body => [⟨.optional, body⟩]
  | .orderTerm column _ => [⟨.part, column⟩]
  | .limit count => ofCount (Argument.count "LIMIT" count).toOption
  | .offset count => ofCount (Argument.count "OFFSET" count).toOption
  | .build => []

/-! ## One call -/

/-- What is true of a changed and of an unchanged state is true after the change, made or
refused. -/
theorem Answer.stateOf_cases {σ : Type} {change : Except Fault (σ → σ)} {s : σ} {p : σ → Prop}
    (hMade : ∀ f, change = .ok f → p (f s)) (hRefused : p s) : p (stateOf change s) := by
  cases change with
  | ok f => exact hMade f rfl
  | error fault => exact hRefused

variable {text : Rendering} {call : Call} {f : Fragment}

theorem Select.held_withJoin {s : Select} {join : Join}
    (h : f ∈ held { s with joins := s.joins ++ [join] }) : f ∈ s.held ∨ f ∈ join.held := by
  simp only [held, List.flatMap_append, List.flatMap_cons, List.flatMap_nil, List.append_nil,
    List.mem_append] at h ⊢
  tauto

/-- After a call a SELECT statement holds what it held, or what the call has handed over. -/
theorem Select.held_apply {s : Select} (h : f ∈ (s.apply text call).state.held) :
    f ∈ s.held ∨ f ∈ call.handed .select := by
  rw [state_apply] at h
  -- a refused call leaves what was held, an accepted one adds what it hands over
  revert h
  refine Answer.stateOf_cases (p := fun s' : Select => f ∈ s'.held → _) (fun change hChange h => ?_)
    Or.inl
  cases call with
  | tableAlias name | condition body | groupCondition body =>
    cases hChange
    simp only [held, Call.handed, List.mem_append, List.mem_cons] at h ⊢
    tauto
  | columns given | groupColumns given =>
    obtain ⟨added, hItems, rfl⟩ := exists_of_map_eq_ok hChange
    have hListed := Argument.listed_of_items hItems
    simp only [held, Call.handed, items, hListed, List.map_append, List.mem_append] at h ⊢
    tauto
  | join kind table on name =>
    obtain ⟨joinKind, -, rfl⟩ := exists_of_map_eq_ok hChange
    exact held_withJoin h
  | joinOf kind table on name =>
    cases hChange
    exact held_withJoin h
  | orderTerm column direction =>
    obtain ⟨order, -, rfl⟩ := exists_of_map_eq_ok hChange
    simp only [held, Call.handed, List.map_append, List.map_cons, List.map_nil,
      List.mem_append] at h ⊢
    tauto
  | limit count | offset count =>
    -- one count is replaced, the other one is still there
    obtain ⟨checked, hCount, rfl⟩ := exists_of_map_eq_ok hChange
    simp only [held, Call.handed, hCount, Except.toOption, List.mem_append] at h ⊢
    tauto
  | build =>
    cases hChange
    exact Or.inl h
  | values given | assign column value => cases hChange

/-- Setting a column leaves the entries that were there, and the column with its value. -/
theorem Insert.held_assign {s : Insert} {column value : Value}
    (h : f ∈ (s.assign column value).held) : f ∈ s.held ∨ f ∈ items [column, value] := by
  rw [assign] at h
  cases hIndex : columnIndex? column s.columns with
  | none =>
    rw [hIndex] at h
    simp only [held, items, List.map_append, List.map_cons, List.map_nil, List.mem_append,
      List.mem_cons] at h ⊢
    tauto
  | some index =>
    rw [hIndex] at h
    simp only [held, List.mem_cons, List.mem_append, mem_items] at h ⊢
    -- a value of the list is one that was there, or the one that was set
    rcases h with hTable | hColumn | ⟨v, hv, rfl⟩
    · exact Or.inl (Or.inl hTable)
    · exact Or.inl (Or.inr (Or.inl hColumn))
    · rcases List.mem_or_eq_of_mem_set hv with hOld | rfl
      · exact Or.inl (Or.inr (Or.inr ⟨v, hOld, rfl⟩))
      · exact Or.inr ⟨v, by simp, rfl⟩

/-- The same for an INSERT statement. -/
theorem Insert.held_apply {s : Insert} (h : f ∈ (s.apply text call).state.held) :
    f ∈ s.held ∨ f ∈ call.handed .insert := by
  rcases apply_cases text s call with hAppended | ⟨column, value, rfl, -, hAssigned⟩
  · rw [hAppended] at h
    simp only [held, items, List.map_append, List.mem_append, List.mem_cons] at h
    -- what is appended is what the call gives, or nothing
    have hColumns : f ∈ items (columnsAdded text s call) → f ∈ call.handed .insert := by
      intro hAdded
      rw [columnsAdded] at hAdded
      split at hAdded
      · cases call <;> first | exact hAdded | cases hAdded
      · cases hAdded
    have hValues : f ∈ items (valuesAdded text s call) → f ∈ call.handed .insert := by
      intro hAdded
      rw [valuesAdded] at hAdded
      split at hAdded
      · cases call <;> first | exact hAdded | cases hAdded
      · cases hAdded
    simp only [held, items, List.mem_append, List.mem_cons]
    unfold items at hColumns hValues
    tauto
  · rw [hAssigned] at h
    exact held_assign h

/-- Writing an entry leaves the entries that were there, and the new one. -/
theorem Update.mem_insertEntry {key value : Value} {entries : List (Value × Value)}
    (h : f ∈ (Value.insertEntry key value entries).flatMap ofEntry) :
    f ∈ entries.flatMap ofEntry ∨ f ∈ ofEntry (key, value) := by
  induction entries with
  | nil =>
    rw [Value.insertEntry, List.flatMap_cons, List.flatMap_nil, List.append_nil] at h
    exact Or.inr h
  | cons entry rest ih =>
    rw [Value.insertEntry] at h
    split at h
    · -- the key that is there is kept, its value is the new one
      simp only [List.flatMap_cons, ofEntry, List.mem_append, List.mem_cons] at h ⊢
      tauto
    · rw [List.flatMap_cons, List.mem_append] at h ⊢
      rcases h with hEntry | hRest
      · exact Or.inl (Or.inl hEntry)
      · exact (ih hRest).imp Or.inr id

theorem Update.held_withAssignment {s : Update} {pair : Value × Value}
    (h : f ∈ (s.withAssignment pair).held) : f ∈ s.held ∨ f ∈ ofEntry pair := by
  rw [held, List.mem_append] at h ⊢
  rcases h with hEntry | hFrame
  · exact (mem_insertEntry hEntry).imp Or.inl id
  · exact Or.inl (Or.inr hFrame)

/-- Several assignments leave what was held and the pairs among them, however far they get. -/
theorem Update.held_assignEach {given : List Value} {s : Update}
    (h : f ∈ (assignEach given s).1.held) :
    f ∈ s.held ∨ f ∈ (given.filterMap pair?).flatMap ofEntry := by
  induction given generalizing s with
  | nil => exact Or.inl h
  | cons item rest ih =>
    rw [assignEach_cons] at h
    cases hItem : checkItem item with
    | error fault =>
      rw [hItem] at h
      exact Or.inl h
    | ok pair =>
      rw [hItem] at h
      -- the item has passed its checks, so it is the pair that is assigned
      have hPair : pair? item = some pair := by
        unfold checkItem checkPair at hItem
        cases hFound : pair? item with
        | none =>
          rw [hFound] at hItem
          cases hItem
        | some found =>
          simp only [hFound, bind, Except.bind] at hItem
          cases hColumn : checkColumn found.1 with
          | error fault =>
            rw [hColumn] at hItem
            cases hItem
          | ok done =>
            rw [hColumn] at hItem
            cases hItem
            rfl
      rw [List.filterMap_cons, hPair, List.flatMap_cons, List.mem_append]
      rcases ih h with hHeld | hRest
      · exact (held_withAssignment hHeld).imp id Or.inl
      · exact Or.inr (Or.inr hRest)

/-- The same for an UPDATE statement, where a call may hand over several assignments. -/
theorem Update.held_apply {s : Update} (h : f ∈ (s.apply text call).state.held) :
    f ∈ s.held ∨ f ∈ call.handed .update := by
  cases call with
  | assign column value =>
    rw [(apply_assign text s column value).1] at h
    revert h
    refine Answer.stateOf_cases (p := fun s' : Update => f ∈ s'.held → _)
      (fun change hChange h => ?_) Or.inl
    obtain ⟨done, -, rfl⟩ := exists_of_map_eq_ok hChange
    exact held_withAssignment h
  | columns given =>
    rw [state_columns, assignAll, Work.require_bind] at h
    rw [Call.handed, pairsGiven]
    cases hItems : assignmentItems given with
    | error fault =>
      rw [hItems] at h
      exact Or.inl h
    | ok items =>
      rw [hItems] at h
      exact held_assignEach h
  | condition body =>
    rw [(apply_condition text s body).1] at h
    simp only [held, Call.handed, List.mem_append, List.mem_cons] at h ⊢
    tauto
  | _ => exact Or.inl h

/-- The same for a DELETE statement. -/
theorem Delete.held_apply {s : Delete} (h : f ∈ (s.apply text call).state.held) :
    f ∈ s.held ∨ f ∈ call.handed .delete := by
  cases call with
  | condition body =>
    rw [(apply_condition text s body).1] at h
    simp only [held, Call.handed, List.mem_cons] at h ⊢
    tauto
  | _ => exact Or.inl h

namespace Statement

/-- After a call a statement holds what it held before and what the call handed over. -/
theorem held_apply {s : Statement} (h : f ∈ (s.apply text call).state.held) :
    f ∈ s.held ∨ f ∈ call.handed s.kind := by
  cases s with
  | select s => exact s.held_apply h
  | insert s => exact s.held_apply h
  | update s => exact s.held_apply h
  | delete s => exact s.held_apply h

/-! ## Runs -/

/-- No call changes the kind of a statement. -/
theorem kind_after (text : Rendering) (s : Statement) (calls : List Call) :
    (Run.after (apply text) s calls).kind = s.kind := by
  induction calls generalizing s with
  | nil => rfl
  | cons call rest ih => exact (ih _).trans (kind_apply text s call)

/-- After a run a statement holds what it held before and what the calls handed over. -/
theorem held_after {s : Statement} {calls : List Call}
    (h : f ∈ (Run.after (apply text) s calls).held) :
    f ∈ s.held ∨ ∃ call ∈ calls, f ∈ call.handed s.kind := by
  induction calls generalizing s with
  | nil => exact Or.inl h
  | cons call rest ih =>
    rcases ih h with hNext | ⟨later, hLater, hHanded⟩
    · -- it was there after the first call already
      rcases held_apply hNext with hHeld | hHanded
      · exact Or.inl hHeld
      · exact Or.inr ⟨call, List.mem_cons_self .., hHanded⟩
    · rw [kind_apply] at hHanded
      exact Or.inr ⟨later, List.mem_cons_of_mem _ hLater, hHanded⟩

/-- A new statement is of the kind that was asked for, is about a table that counts as text, and
holds nothing else. -/
theorem create_facts {kind : StatementKind} {table : Value} {fresh : Statement}
    (h : create kind table = .ok fresh) :
    fresh.kind = kind ∧ table.isText = true ∧
      ∀ f ∈ fresh.held, f = ⟨.table, table⟩ ∨ f = ⟨.optional, .null⟩ := by
  cases kind with
  | select =>
    obtain ⟨s, hSelect, rfl⟩ := exists_of_map_eq_ok h
    obtain ⟨rfl, hText⟩ := Argument.eq_of_map_table hSelect
    exact ⟨rfl, hText, by simp [held, Select.held, items, ofCount]⟩
  | insert =>
    obtain ⟨s, hInsert, rfl⟩ := exists_of_map_eq_ok h
    obtain ⟨rfl, hText⟩ := Argument.eq_of_map_table hInsert
    exact ⟨rfl, hText, by simp [held, Insert.held, items]⟩
  | update =>
    obtain ⟨s, hUpdate, rfl⟩ := exists_of_map_eq_ok h
    obtain ⟨rfl, hText⟩ := Argument.eq_of_map_table hUpdate
    exact ⟨rfl, hText, by simp [held, Update.held]⟩
  | delete =>
    obtain ⟨s, hDelete, rfl⟩ := exists_of_map_eq_ok h
    obtain ⟨rfl, hText⟩ := Argument.eq_of_map_table hDelete
    exact ⟨rfl, hText, by simp [held, Delete.held]⟩

/-- What is true of the table, of null, and of all fragments that the calls of a run hand over, is
true of all fragments that the statement holds after the run. -/
theorem forall_held_after {kind : StatementKind} {table : Value} {fresh : Statement}
    (hFresh : create kind table = .ok fresh) {p : Fragment → Prop} (hTable : p ⟨.table, table⟩)
    (hNull : p ⟨.optional, .null⟩) {calls : List Call}
    (hCalls : ∀ call ∈ calls, ∀ f ∈ call.handed kind, p f) :
    ∀ f ∈ (Run.after (apply text) fresh calls).held, p f := by
  obtain ⟨hKind, -, hHeld⟩ := create_facts hFresh
  intro f hf
  rcases held_after hf with hStart | ⟨call, hCall, hHanded⟩
  · rcases hHeld f hStart with rfl | rfl
    · exact hTable
    · exact hNull
  · exact hCalls call hCall f (hKind ▸ hHanded)

end Statement

end SqlCompose
