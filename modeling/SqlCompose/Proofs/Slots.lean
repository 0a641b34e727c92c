import SqlCompose.Proofs.Insert.Places
import SqlCompose.Proofs.Select.Change

/-!
# SqlCompose — slots

A setter call fills one part of a statement, its slot. What is in the other
slots does not decide whether the call is accepted, and is not changed by it; so
the part of a statement that a slot makes up (`Statement.only`) runs on its own:
it takes a step at the calls of the slot and stands still at all others.

Setting a single column of an INSERT statement is the exception. It fills the
columns and the values together and is refused while they differ in length.

Main results:

* `Statement.only_after` — what a run leaves in a slot is what the calls of the
  slot leave in it.
* `Statement.eq_of_only` — a statement is what is in its slots.
* `Statement.result_apply_of_slot` — the answer to a setter call depends on
  nothing but the call and the kind of the statement.
-/

namespace SqlCompose

/-- The parts of a statement that calls fill. -/
inductive Slot where
  | tableAlias
  | columns
  | values
  | assignments
  | joins
  | condition
  | groupColumns
  | groupCondition
  | orderTerms
  | limit
  | offset
  deriving DecidableEq

namespace Call

/-- The slot that a call fills; building fills none, and so do calls that the kind does not know. -/
def slot? : StatementKind → Call → Option Slot
  | .select, .tableAlias _ => some .tableAlias
  | .select, .columns _ => some .columns
  | .select, .join _ _ _ _ => some .joins
  | .select, .joinOf _ _ _ _ => some .joins
  | .select, .condition _ => some .condition
  | .select, .groupColumns _ => some .groupColumns
  | .select, .groupCondition _ => some .groupCondition
  | .select, .orderTerm _ _ => some .orderTerms
  | .select, .limit _ => some .limit
  | .select, .offset _ => some .offset
  | .insert, .columns _ => some .columns
  | .insert, .values _ => some .values
  | .update, .assign _ _ => some .assignments
  | .update, .columns _ => some .assignments
  | .update, .condition _ => some .condition
  | .delete, .condition _ => some .condition
  | _, _ => none

/-- Setting a column of an INSERT statement fills two slots at once. -/
def spansSlots : StatementKind → Call → Bool
  | .insert, .assign _ _ => true
  | _, _ => false

end Call

/-- A part that a change leaves alone, or changes on its own, is left alone or changed if the change
is made, and left alone if it is refused. -/
theorem Answer.part_stateOf {σ α : Type} {part : σ → σ} {argument : Except Fault α}
    {f : α → σ → σ} {s : σ} {p : Prop} [Decidable p]
    (h : ∀ a, part (f a s) = if p then f a (part s) else part s) :
    part (stateOf (argument.map f) s) =
      if p then stateOf (argument.map f) (part s) else part s := by
  cases argument with
  | ok a => exact h a
  | error fault => exact (ite_self _).symm

/-! ## SELECT statements -/

namespace Select

/-- The part of a SELECT statement that a slot makes up. -/
def only (slot : Slot) (s : Select) : Select :=
  match slot with
  | .tableAlias => { table := s.table, tableAlias := s.tableAlias }
  | .columns => { table := s.table, columns := s.columns }
  | .joins => { table := s.table, joins := s.joins }
  | .condition => { table := s.table, condition := s.condition }
  | .groupColumns => { table := s.table, groupColumns := s.groupColumns }
  | .groupCondition => { table := s.table, groupCondition := s.groupCondition }
  | .orderTerms => { table := s.table, orderTerms := s.orderTerms }
  | .limit => { table := s.table, limit := s.limit }
  | .offset => { table := s.table, offset := s.offset }
  | .values | .assignments => { table := s.table }

/-- A part takes a step at the calls of its slot, and stands still at all others. -/
theorem only_apply (slot : Slot) (text : Rendering) (s : Select) (call : Call) :
    (s.apply text call).state.only slot =
      if call.slot? .select = some slot then ((s.only slot).apply text call).state
      else s.only slot := by
  rw [state_apply, state_apply]
  -- what a call asks for does not depend on the clauses: it is the same in the whole and the part
  cases call with
  | tableAlias name => cases slot <;> rfl
  | columns items => exact Answer.part_stateOf fun added => by cases slot <;> rfl
  | values items => cases slot <;> rfl
  | assign column value => cases slot <;> rfl
  | join kind table on name => exact Answer.part_stateOf fun joinKind => by cases slot <;> rfl
  | joinOf kind table on name => cases slot <;> rfl
  | condition body => cases slot <;> rfl
  | groupColumns items => exact Answer.part_stateOf fun added => by cases slot <;> rfl
  | groupCondition body => cases slot <;> rfl
  | orderTerm column direction => exact Answer.part_stateOf fun order => by cases slot <;> rfl
  | limit count => exact Answer.part_stateOf fun n => by cases slot <;> rfl
  | offset count => exact Answer.part_stateOf fun n => by cases slot <;> rfl
  | build => cases slot <;> rfl

/-- A SELECT statement is told by what is in its slots. -/
theorem eq_of_only {a b : Select} (h : ∀ slot, a.only slot = b.only slot) : a = b := by
  have hTable := congrArg Select.table (h .limit)
  have hAlias := congrArg Select.tableAlias (h .tableAlias)
  have hColumns := congrArg Select.columns (h .columns)
  have hJoins := congrArg Select.joins (h .joins)
  have hCondition := congrArg Select.condition (h .condition)
  have hGroupColumns := congrArg Select.groupColumns (h .groupColumns)
  have hGroupCondition := congrArg Select.groupCondition (h .groupCondition)
  have hOrderTerms := congrArg Select.orderTerms (h .orderTerms)
  have hLimit := congrArg Select.limit (h .limit)
  have hOffset := congrArg Select.offset (h .offset)
  cases a
  cases b
  cases hTable
  cases hAlias
  cases hColumns
  cases hJoins
  cases hCondition
  cases hGroupColumns
  cases hGroupCondition
  cases hOrderTerms
  cases hLimit
  cases hOffset
  rfl

end Select

/-! ## INSERT statements -/

namespace Insert

/-- The part of an INSERT statement that a slot makes up. -/
def only (slot : Slot) (s : Insert) : Insert :=
  match slot with
  | .columns => { table := s.table, columns := s.columns }
  | .values => { table := s.table, values := s.values }
  | _ => { table := s.table }

variable (text : Rendering) (s : Insert)

/-- **A call on a SELECT statement changes the slot that it is for**, and finds there all that it
needs. -/
theorem only_apply (slot : Slot) {call : Call} (hOne : call.spansSlots .insert = false) :
    (s.apply text call).state.only slot =
      if call.slot? .insert = some slot then ((s.only slot).apply text call).state
      else s.only slot := by
  cases call with
  | columns items =>
    rw [(apply_columns text s items).1, (apply_columns text (s.only slot) items).1]
    exact Answer.part_stateOf fun added => by cases slot <;> rfl
  | values items =>
    rw [(apply_values text s items).1, (apply_values text (s.only slot) items).1]
    exact Answer.part_stateOf fun added => by cases slot <;> rfl
  | assign column value => cases hOne
  | _ => cases slot <;> rfl

/-- An INSERT statement is told by its slots. -/
theorem eq_of_only {a b : Insert} (h : ∀ slot, a.only slot = b.only slot) : a = b := by
  have hTable := congrArg Insert.table (h .columns)
  have hColumns := congrArg Insert.columns (h .columns)
  have hValues := congrArg Insert.values (h .values)
  cases a
  cases b
  cases hTable
  cases hColumns
  cases hValues
  rfl

/-- What a call leaves does not depend on how fragments are written. -/
theorem state_apply_text (text' : Rendering) (call : Call) :
    (s.apply text call).state = (s.apply text' call).state := by
  cases call with
  | assign column value =>
    -- the text is only used to name the table in a refusal, which changes nothing
    by_cases hLength : s.columns.length = s.values.length
    · rw [state_assign_of_aligned hLength, state_assign_of_aligned hLength]
    · have hRefused : ∀ text : Rendering,
          ¬ Run.isAccepted (apply text) s (.assign column value) = true := fun text hAccepted =>
        hLength ((isAccepted_assign text s column value).mp hAccepted)
      rw [state_of_refused (hRefused text), state_of_refused (hRefused text')]
  | _ => rfl

end Insert

/-! ## UPDATE statements -/

namespace Update

/-- The part of an UPDATE statement that a slot makes up. -/
def only (slot : Slot) (s : Update) : Update :=
  match slot with
  | .assignments => { table := s.table, assignments := s.assignments }
  | .condition => { table := s.table, condition := s.condition }
  | _ => { table := s.table }

/-- Several assignments are made up to the same one whatever the condition is, and leave it. -/
theorem assignEach_withCondition (items : List Value) (condition : Value) (s : Update) :
    assignEach items { s with condition := condition } =
      ({ (assignEach items s).1 with condition := condition }, (assignEach items s).2) := by
  induction items generalizing s with
  | nil => rfl
  | cons item rest ih =>
    rw [assignEach_cons, assignEach_cons]
    -- the condition is carried along until an assignment is refused
    cases checkItem item with
    | ok pair => exact ih (s.withAssignment pair)
    | error fault => rfl

theorem assignAll_withCondition (given condition : Value) (s : Update) :
    assignAll given { s with condition := condition } =
      ({ (assignAll given s).1 with condition := condition }, (assignAll given s).2) := by
  rw [assignAll, Work.require_bind, Work.require_bind]
  cases assignmentItems given with
  | ok items => exact assignEach_withCondition items condition s
  | error fault => rfl

/-- Assignments change nothing else. -/
theorem assignEach_kept (items : List Value) (s : Update) :
    (assignEach items s).1 = { s with assignments := (assignEach items s).1.assignments } := by
  induction items generalizing s with
  | nil => rfl
  | cons item rest ih =>
    rw [assignEach_cons]
    cases checkItem item with
    | ok pair => exact ih (s.withAssignment pair)
    | error fault => rfl

/-- Which of several assignments is refused depends on them alone. -/
theorem assignEach_reply (items : List Value) (s s' : Update) :
    (assignEach items s).2 = (assignEach items s').2 := by
  induction items generalizing s s' with
  | nil => rfl
  | cons item rest ih =>
    rw [assignEach_cons, assignEach_cons]
    cases checkItem item with
    | ok pair => exact ih (s.withAssignment pair) (s'.withAssignment pair)
    | error fault => rfl

/-- Assignments change the assignments only. -/
theorem assignAll_kept (given : Value) (s : Update) :
    (assignAll given s).1 = { s with assignments := (assignAll given s).1.assignments } := by
  rw [assignAll, Work.require_bind]
  cases assignmentItems given with
  | ok items => exact assignEach_kept items s
  | error fault => rfl

/-- Whether assignments are refused does not depend on the statement. -/
theorem assignAll_reply (given : Value) (s s' : Update) :
    (assignAll given s).2 = (assignAll given s').2 := by
  rw [assignAll, Work.require_bind, Work.require_bind]
  cases assignmentItems given with
  | ok items => exact assignEach_reply items s s'
  | error fault => rfl

theorem state_columns (text : Rendering) (s : Update) (items : Value) :
    (s.apply text (.columns items)).state = (assignAll items s).1 := rfl

/-- A single assignment is made unless its column is refused. -/
theorem apply_assign (text : Rendering) (s : Update) (column value : Value) :
    let change := (checkColumn column).map fun _ (s : Update) =>
      s.withAssignment (column, value)
    (s.apply text (.assign column value)).state = Answer.stateOf change s ∧
      (s.apply text (.assign column value)).reply.result = Answer.resultOf change :=
  Answer.worked_require_change ..

/-- A condition is always accepted, and replaces the one that is there. -/
theorem apply_condition (text : Rendering) (s : Update) (body : Value) :
    (s.apply text (.condition body)).state = { s with condition := body } ∧
      (s.apply text (.condition body)).reply.result = .ok .chained :=
  Answer.worked_replace ..

/-- **A call on an UPDATE statement changes the slot that it is for.** -/
theorem only_apply (slot : Slot) (text : Rendering) (s : Update) (call : Call) :
    (s.apply text call).state.only slot =
      if call.slot? .update = some slot then ((s.only slot).apply text call).state
      else s.only slot := by
  cases call with
  | assign column value =>
    rw [(apply_assign text s column value).1, (apply_assign text (s.only slot) column value).1]
    exact Answer.part_stateOf fun _ => by cases slot <;> rfl
  | columns items =>
    rw [state_columns, state_columns]
    -- assignments that are made before a refused one stay, in the whole as in the part
    by_cases hSlot : slot = .assignments
    · rw [hSlot]
      exact (congrArg Prod.fst (assignAll_withCondition items .null s)).symm
    · rw [assignAll_kept]
      cases slot <;> first | rfl | exact absurd rfl hSlot
  | condition body =>
    rw [(apply_condition text s body).1, (apply_condition text (s.only slot) body).1]
    cases slot <;> rfl
  | _ => cases slot <;> rfl

/-- An UPDATE statement is told by its slots. -/
theorem eq_of_only {a b : Update} (h : ∀ slot, a.only slot = b.only slot) : a = b := by
  have hTable := congrArg Update.table (h .condition)
  have hAssignments := congrArg Update.assignments (h .assignments)
  have hCondition := congrArg Update.condition (h .condition)
  cases a
  cases b
  cases hTable
  cases hAssignments
  cases hCondition
  rfl

end Update

/-! ## DELETE statements -/

namespace Delete

/-- The part of a DELETE statement that a slot makes up. -/
def only (slot : Slot) (s : Delete) : Delete :=
  match slot with
  | .condition => s
  | _ => { table := s.table }

/-- A condition is always accepted, and replaces the one that is there. -/
theorem apply_condition (text : Rendering) (s : Delete) (body : Value) :
    (s.apply text (.condition body)).state = { s with condition := body } ∧
      (s.apply text (.condition body)).reply.result = .ok .chained :=
  Answer.worked_replace ..

/-- **A call on a DELETE statement changes the slot that it is for.** -/
theorem only_apply (slot : Slot) (text : Rendering) (s : Delete) (call : Call) :
    (s.apply text call).state.only slot =
      if call.slot? .delete = some slot then ((s.only slot).apply text call).state
      else s.only slot := by
  cases call with
  | condition body =>
    rw [(apply_condition text s body).1, (apply_condition text (s.only slot) body).1]
    cases slot <;> rfl
  | _ => cases slot <;> rfl

end Delete

/-! ## Statements of any kind -/

namespace Statement

/-- The part of a statement that a slot makes up. -/
def only (slot : Slot) : Statement → Statement
  | select s => select (s.only slot)
  | insert s => insert (s.only slot)
  | update s => update (s.only slot)
  | delete s => delete (s.only slot)

/-- No call changes the kind of a statement. -/
theorem kind_apply (text : Rendering) (s : Statement) (call : Call) :
    (s.apply text call).state.kind = s.kind := by
  cases s <;> rfl

/-- What a call leaves does not depend on how fragments are written. -/
theorem state_apply_text (text text' : Rendering) (s : Statement) (call : Call) :
    (s.apply text call).state = (s.apply text' call).state := by
  cases s with
  | select s =>
    refine congrArg select ?_
    rw [Select.state_apply, Select.state_apply]
  | insert s => exact congrArg insert (s.state_apply_text text text' call)
  | update s =>
    refine congrArg update ?_
    cases call <;> rfl
  | delete s =>
    refine congrArg delete ?_
    cases call <;> rfl

/-- A part takes a step at the calls of its slot, and stands still at all others. -/
theorem only_apply (slot : Slot) (text : Rendering) (s : Statement) {call : Call}
    (hOne : call.spansSlots s.kind = false) :
    (s.apply text call).state.only slot =
      if call.slot? s.kind = some slot then ((s.only slot).apply text call).state
      else s.only slot := by
  cases s with
  | select s => exact (congrArg select (s.only_apply slot text call)).trans (apply_ite ..)
  | insert s => exact (congrArg insert (s.only_apply text slot hOne)).trans (apply_ite ..)
  | update s => exact (congrArg update (s.only_apply slot text call)).trans (apply_ite ..)
  | delete s => exact (congrArg delete (s.only_apply slot text call)).trans (apply_ite ..)

/-- What a run leaves in a slot is what the calls of the slot leave in it. -/
theorem only_after (slot : Slot) (text : Rendering) (s : Statement) {calls : List Call}
    (hOne : ∀ call ∈ calls, call.spansSlots s.kind = false) :
    (Run.after (apply text) s calls).only slot =
      Run.after (apply text) (s.only slot)
        (calls.filter fun call => call.slot? s.kind = some slot) := by
  induction calls generalizing s with
  | nil => rfl
  | cons call rest ih =>
    -- the calls that are left are sorted by the same kind
    have hKind := kind_apply text s call
    have hRest := ih (s.apply text call).state fun c hc => by
      rw [hKind]
      exact hOne c (List.mem_cons_of_mem _ hc)
    rw [hKind, only_apply slot text s (hOne call (List.mem_cons_self ..))] at hRest
    rw [Run.after_cons, hRest, List.filter_cons]
    -- the part takes the step, or the call is left out of its run
    by_cases hSlot : call.slot? s.kind = some slot
    · rw [if_pos hSlot, if_pos (decide_eq_true hSlot), Run.after_cons]
    · rw [if_neg hSlot, if_neg (mt of_decide_eq_true hSlot)]

/-- A statement is what is in its slots. -/
theorem eq_of_only {a b : Statement} (h : ∀ slot, a.only slot = b.only slot) : a = b := by
  cases a with
  | select a =>
    cases b with
    | select b => exact congrArg select (Select.eq_of_only fun slot => select.inj (h slot))
    | _ => cases h .limit
  | insert a =>
    cases b with
    | insert b => exact congrArg insert (Insert.eq_of_only fun slot => insert.inj (h slot))
    | _ => cases h .limit
  | update a =>
    cases b with
    | update b => exact congrArg update (Update.eq_of_only fun slot => update.inj (h slot))
    | _ => cases h .limit
  | delete a =>
    cases b with
    | delete b => exact h .condition
    | _ => cases h .limit

/-- The answer to a setter call depends on nothing but the call and the kind of the statement. -/
theorem result_apply_of_slot {a b : Statement} (hKind : a.kind = b.kind) {call : Call}
    {slot : Slot} (hSlot : call.slot? a.kind = some slot) (text text' : Rendering) :
    (a.apply text call).reply.result = (b.apply text' call).reply.result := by
  cases a with
  | select a =>
    cases b with
    | select b =>
      -- building fills no slot
      have hNotBuild : call ≠ .build := fun h => by
        rw [h] at hSlot
        cases hSlot
      exact (Select.result_apply hNotBuild).trans (Select.result_apply hNotBuild).symm
    | _ => cases hKind
  | insert a =>
    cases b with
    | insert b =>
      cases call with
      | columns items =>
        exact (a.apply_columns text items).2.trans (b.apply_columns text' items).2.symm
      | values items =>
        exact (a.apply_values text items).2.trans (b.apply_values text' items).2.symm
      | _ => cases hSlot
    | _ => cases hKind
  | update a =>
    cases b with
    | update b =>
      cases call with
      | assign column value =>
        exact (a.apply_assign text column value).2.trans (b.apply_assign text' column value).2.symm
      | columns items =>
        refine (Answer.result_worked _ _).trans (Eq.trans ?_ (Answer.result_worked _ _).symm)
        rw [Update.assignAll_reply items a b]
      | condition body =>
        exact (a.apply_condition text body).2.trans (b.apply_condition text' body).2.symm
      | _ => cases hSlot
    | _ => cases hKind
  | delete a =>
    cases b with
    | delete b =>
      cases call with
      | condition body =>
        exact (a.apply_condition text body).2.trans (b.apply_condition text' body).2.symm
      | _ => cases hSlot
    | _ => cases hKind

end Statement

end SqlCompose
