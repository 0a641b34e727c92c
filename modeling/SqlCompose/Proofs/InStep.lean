import SqlCompose.Proofs.Insert.Pairing
import SqlCompose.Proofs.Update.Assignments

/-!
# SqlCompose — an INSERT and an UPDATE statement in step

An INSERT statement keeps its columns and its values in two lists, and looks a
column up by going through the first one. An UPDATE statement keeps a table of
assignments, in which a column is a key. As long as columns are only set one by
one, both are the same table of assignments (`InStep`): the two lists side by
side are the entries of the table, and no column is in it twice.

Main results:

* `Insert.zip_assign` — replacing a value at the place of its column, or
  appending to both lists, is writing into the table.
* `InStep.after` — statements that are in step stay so.
* `insert_and_update_hold_one_table` — they start in step, set the same columns,
  and write out one table.
-/

namespace SqlCompose

/-! ## Two lists side by side -/

namespace Insert

theorem columnIndex?_cons (column first : Value) (rest : List Value) :
    columnIndex? column (first :: rest) =
      if Value.equal first column then some 0 else (columnIndex? column rest).map (· + 1) := by
  rw [columnIndex?, List.findIdx?_cons]
  rfl

/-- Writing an entry into the table that two lists make up side by side: the value replaces the one
at the place of its column, or both go to the end. -/
theorem insertEntry_zip (column : String) (value : Value) {columns values : List Value}
    (hLength : columns.length = values.length) (hColumns : ∀ c ∈ columns, c.isLiteral = true) :
    Value.insertEntry (.text column) value (columns.zip values) =
      match columnIndex? (.text column) columns with
      | some place => columns.zip (values.set place value)
      | none => (columns ++ [Value.text column]).zip (values ++ [value]) := by
  induction columns generalizing values with
  | nil =>
    have hNone : values = [] := List.length_eq_zero_iff.mp hLength.symm
    rw [hNone]
    rfl
  | cons first rest ih =>
    obtain ⟨held, others, rfl⟩ := List.exists_cons_of_length_eq_add_one hLength.symm
    have hRest := ih (Nat.succ.inj hLength) fun c hc => hColumns c (List.mem_cons_of_mem _ hc)
    have hFirst := Value.eq_text_of_isLiteral (hColumns first (List.mem_cons_self ..))
    -- the search compares the other way round than the table, which is the same for texts
    have hEqual : Value.equal first (.text column) = Value.equal (.text column) first := by
      rw [hFirst, Value.equal_text, Value.equal_text, Bool.beq_comm]
    rw [List.zip_cons_cons, Value.insertEntry, columnIndex?_cons, hEqual, hRest]
    by_cases hHere : Value.equal (.text column) first = true
    · rw [if_pos hHere, if_pos hHere]
      rfl
    · rw [if_neg hHere, if_neg hHere]
      cases columnIndex? (.text column) rest with
      | some place => rfl
      | none => rfl

/-- Setting a column writes an entry into the table that the lists make up side by side. -/
theorem zip_assign {s : Insert} (hAligned : s.columns.length = s.values.length)
    (hColumns : ∀ c ∈ s.columns, c.isLiteral = true) (column : String) (value : Value) :
    (s.assign (.text column) value).columns.zip (s.assign (.text column) value).values =
      Value.insertEntry (.text column) value (s.columns.zip s.values) := by
  rw [insertEntry_zip column value hAligned hColumns, assign]
  cases columnIndex? (.text column) s.columns with
  | some place => rfl
  | none => rfl

/-- The lists stay equally long. -/
theorem aligned_assign {s : Insert} (hAligned : s.columns.length = s.values.length)
    (column value : Value) :
    (s.assign column value).columns.length = (s.assign column value).values.length := by
  rw [assign]
  cases columnIndex? column s.columns with
  | some place => rw [List.length_set, hAligned]
  | none => rw [List.length_append, List.length_append, hAligned]; rfl

/-- A column that is there is found, so no column gets into the list twice. -/
theorem nodup_assign {s : Insert} (hNodup : s.columns.Nodup)
    (hColumns : ∀ c ∈ s.columns, c.isLiteral = true) (column : String) (value : Value) :
    (s.assign (.text column) value).columns.Nodup := by
  rw [assign]
  cases hIndex : columnIndex? (.text column) s.columns with
  | some place => exact hNodup
  | none =>
    have hNew : .text column ∉ s.columns := by
      intro hMem
      obtain ⟨place, hFound, -⟩ := columnIndex?_eq_some hColumns hMem
      rw [hIndex] at hFound
      cases hFound
    show (s.columns ++ [Value.text column]).Nodup
    rw [← List.concat_eq_append]
    exact List.Nodup.concat hNew hNodup

end Insert

/-! ## Statements in step -/

/-- An INSERT and an UPDATE statement hold the same table of assignments of texts to texts. -/
structure InStep (i : Insert) (u : Update) : Prop where
  table : i.table = u.table
  literal : i.Literal
  aligned : i.columns.length = i.values.length
  distinct : i.columns.Nodup
  same : i.columns.zip i.values = u.assignments
  unconditional : u.condition = .null

namespace InStep

/-- New statements on a table are in step. -/
theorem start {table : Value} {i : Insert} {u : Update} (hInsert : Insert.create table = .ok i)
    (hUpdate : Update.create table = .ok u) : InStep i u := by
  obtain ⟨rfl, hText⟩ := Insert.create_eq hInsert
  obtain ⟨rfl, -⟩ := Update.create_eq hUpdate
  exact ⟨rfl, Insert.Literal.start hText, rfl, List.nodup_nil, rfl, rfl⟩

variable {i : Insert} {u : Update}

/-- Setting a column on both keeps them in step. -/
theorem assign (h : InStep i u) (column value : String) :
    InStep (i.assign (.text column) (.text value))
      (u.withAssignment (.text column, .text value)) where
  table := by
    rw [Insert.assign]
    split <;> exact h.table
  literal := h.literal.assign rfl rfl
  aligned := Insert.aligned_assign h.aligned _ _
  distinct := Insert.nodup_assign h.distinct h.literal.columns column (.text value)
  same := by
    rw [Insert.zip_assign h.aligned h.literal.columns, h.same]
    rfl
  unconditional := h.unconditional

/-! ## Runs -/

/-- Both statements take a call that sets a column, and are in step afterwards. -/
theorem step (h : InStep i u) (text : Rendering) (column value : String) :
    InStep (i.apply text (.assign (.text column) (.text value))).state
        (u.apply text (.assign (.text column) (.text value))).state ∧
      Run.isAccepted (Insert.apply text) i (.assign (.text column) (.text value)) = true ∧
      Run.isAccepted (Update.apply text) u (.assign (.text column) (.text value)) = true := by
  obtain ⟨hState, hReply⟩ := u.apply_assign text (.text column) (.text value)
  refine ⟨?_, (Insert.isAccepted_assign ..).mpr h.aligned, ?_⟩
  · rw [Insert.state_assign_of_aligned h.aligned, hState]
    exact h.assign column value
  · rw [Run.isAccepted, hReply]
    rfl

/-- The calls that set columns one by one. -/
def assignments (pairs : List (String × String)) : List Call :=
  pairs.map fun pair => .assign (.text pair.1) (.text pair.2)

/-- Statements that are in step stay so, and none of the calls is refused. -/
theorem after (h : InStep i u) (text : Rendering) (pairs : List (String × String)) :
    InStep (Run.after (Insert.apply text) i (assignments pairs))
        (Run.after (Update.apply text) u (assignments pairs)) ∧
      Run.accepted (Insert.apply text) i (assignments pairs) = assignments pairs ∧
      Run.accepted (Update.apply text) u (assignments pairs) = assignments pairs := by
  induction pairs generalizing i u with
  | nil => exact ⟨h, rfl, rfl⟩
  | cons pair rest ih =>
    obtain ⟨hNext, hInsert, hUpdate⟩ := h.step text pair.1 pair.2
    obtain ⟨hAfter, hInserts, hUpdates⟩ := ih hNext
    refine ⟨hAfter, ?_, ?_⟩
    · rw [assignments, List.map_cons, Run.accepted_cons, if_pos hInsert]
      exact congrArg (List.cons _) hInserts
    · rw [assignments, List.map_cons, Run.accepted_cons, if_pos hUpdate]
      exact congrArg (List.cons _) hUpdates

/-- The calls supply the pairs. -/
theorem suppliedBy_assignments (pairs : List (String × String)) :
    Update.suppliedBy (assignments pairs) = pairs := by
  induction pairs with
  | nil => rfl
  | cons pair rest ih => exact congrArg (List.cons pair) ih

/-- The UPDATE statement holds what the pairs add up to, and no condition. -/
theorem update_after (text : Rendering) (table : Value) (pairs : List (String × String)) :
    Run.after (Update.apply text) { table := table } (assignments pairs) =
      Update.ofSupplied table pairs .null := by
  have hCalls : ∀ call ∈ assignments pairs, (Update.supplied? call).isSome = true := by
    intro call hCall
    obtain ⟨pair, -, rfl⟩ := List.mem_map.mp hCall
    rfl
  have hCondition : (assignments pairs).filterMap Select.conditionGiven? = [] := by
    rw [List.filterMap_eq_nil_iff]
    intro call hCall
    obtain ⟨pair, -, rfl⟩ := List.mem_map.mp hCall
    rfl
  rw [Update.after_eq_ofSupplied text table hCalls, suppliedBy_assignments, Select.latest,
    hCondition]
  rfl

/-! ## Texts -/

/-- The columns are the keys of the table. -/
theorem columns_eq (h : InStep i u) : i.columns = u.assignments.map Prod.fst := by
  rw [← h.same, List.map_fst_zip (Nat.le_of_eq h.aligned)]

theorem values_eq (h : InStep i u) : i.values = u.assignments.map Prod.snd := by
  rw [← h.same, List.map_snd_zip (Nat.le_of_eq h.aligned.symm)]

theorem literal_update (h : InStep i u) : u.Literal where
  table := h.table ▸ h.literal.table
  assignments := fun entry hEntry => by
    rw [← h.same] at hEntry
    obtain ⟨hColumn, hValue⟩ := List.of_mem_zip hEntry
    exact ⟨h.literal.columns _ hColumn, h.literal.values _ hValue⟩
  condition := by
    rw [h.unconditional]
    rfl

/-- The INSERT statement lists the columns of the table and then its values. -/
theorem build_insert (h : InStep i u) (store : Store) :
    (i.apply store.text .build).reply.result =
      if u.assignments = [] then .error (.noColumns (u.table.plain .blank))
      else .ok (.built ("INSERT INTO " ++ u.table.plain .blank ++ " (" ++
        ", ".intercalate (u.assignments.map fun entry => entry.1.literal) ++ ") VALUES (" ++
        ", ".intercalate (u.assignments.map fun entry => entry.2.literal) ++ ");")) := by
  have hEmpty : i.columns = [] ↔ u.assignments = [] := by
    rw [h.columns_eq, List.map_eq_nil_iff]
  have hColumns : i.columns.map Value.literal = u.assignments.map fun entry => entry.1.literal := by
    rw [h.columns_eq, List.map_map]
    rfl
  have hValues : i.values.map Value.literal = u.assignments.map fun entry => entry.2.literal := by
    rw [h.values_eq, List.map_map]
    rfl
  have hAligned : ¬ i.columns.length ≠ i.values.length := fun hne => hne h.aligned
  have hText : i.literalText = "INSERT INTO " ++ i.table.plain .blank ++ " (" ++
      ", ".intercalate (i.columns.map Value.literal) ++ ") VALUES (" ++
      ", ".intercalate (i.values.map Value.literal) ++ ");" := rfl
  rw [Insert.apply, Answer.result_built, Insert.render_literal store h.literal, if_neg hAligned,
    hText, hColumns, hValues, h.table]
  simp only [hEmpty]
  split <;> rfl

/-- The UPDATE statement lists its entries. -/
theorem build_update (h : InStep i u) (store : Store) :
    (u.apply store.text .build).reply.result =
      if u.assignments = [] then .error (.noAssignments (u.table.plain .blank))
      else .ok (.built ("UPDATE " ++ u.table.plain .blank ++ " SET " ++
        ", ".intercalate (u.assignments.map fun entry =>
          entry.1.literal ++ " = " ++ entry.2.literal) ++ ";")) := by
  have hCondition : Clause.optional "WHERE" u.condition.literal = "" := by
    rw [h.unconditional]
    rfl
  rw [Update.apply, Answer.result_built, Update.render_literal store h.literal_update,
    Update.literalText, hCondition, String.append_empty]
  split <;> rfl

end InStep

/-- What is refused in one case only is answered in the other. -/
theorem isOk_ite {p : Prop} [Decidable p] (fault : Fault) (reply : Reply) :
    (if p then .error fault else .ok reply : Except Fault Reply).isOk = true ↔ ¬ p := by
  by_cases h : p
  · rw [if_pos h]
    exact ⟨fun hOk => absurd hOk Bool.false_ne_true, fun hNot => absurd h hNot⟩
  · rw [if_neg h]
    exact ⟨fun _ => h, fun _ => rfl⟩

/-- What can be told of an INSERT and an UPDATE statement on a table after the same columns were set
on both, one by one. -/
structure HoldOneTable (store : Store) (table : Value) (pairs : List (String × String))
    (i : Insert) (u : Update) : Prop where
  distinct : i.columns.Nodup
  aligned : i.columns.length = i.values.length
  /-- The two lists side by side are the entries of the table, in the same order. -/
  sideBySide : i.columns.zip i.values = u.assignments
  texts : ∀ entry ∈ u.assignments, entry.1.isLiteral = true ∧ entry.2.isLiteral = true
  /-- Either text is built exactly if a column was set. -/
  insert_built : (i.apply store.text .build).reply.result.isOk = true ↔ pairs ≠ []
  update_built : (u.apply store.text .build).reply.result.isOk = true ↔ pairs ≠ []
  /-- Both texts are written from the one table. -/
  insert_text : pairs ≠ [] → (i.apply store.text .build).reply.result =
    .ok (.built ("INSERT INTO " ++ table.plain .blank ++ " (" ++
      ", ".intercalate (u.assignments.map fun entry => entry.1.literal) ++ ") VALUES (" ++
      ", ".intercalate (u.assignments.map fun entry => entry.2.literal) ++ ");"))
  update_text : pairs ≠ [] → (u.apply store.text .build).reply.result =
    .ok (.built ("UPDATE " ++ table.plain .blank ++ " SET " ++
      ", ".intercalate (u.assignments.map fun entry =>
        entry.1.literal ++ " = " ++ entry.2.literal) ++ ";"))

/-- Statements in step hold one table; all that is left to tell is when it is empty. -/
theorem InStep.holdOneTable {i : Insert} {u : Update} (h : InStep i u) (store : Store)
    {pairs : List (String × String)} (hEmpty : u.assignments = [] ↔ pairs = []) :
    HoldOneTable store u.table pairs i u := by
  have hInsert := h.build_insert store
  have hUpdate := h.build_update store
  simp only [hEmpty] at hInsert hUpdate
  refine ⟨h.distinct, h.aligned, h.same, h.literal_update.assignments, ?_, ?_, ?_, ?_⟩
  · rw [hInsert]
    exact isOk_ite ..
  · rw [hUpdate]
    exact isOk_ite ..
  · intro hSome
    rw [hInsert, if_neg hSome]
  · intro hSome
    rw [hUpdate, if_neg hSome]

/-- **An INSERT and an UPDATE statement hold one table.** If the same columns are set, one by one,
on a new INSERT and a new UPDATE statement, neither refuses a call, the columns and the values of
the one are at every moment the assignments of the other, and both texts are written from them. -/
theorem insert_and_update_hold_one_table (store : Store) {table : Value} {i : Insert} {u : Update}
    (hInsert : Insert.create table = .ok i) (hUpdate : Update.create table = .ok u)
    (pairs : List (String × String)) :
    let calls := InStep.assignments pairs
    Run.accepted (Insert.apply store.text) i calls = calls ∧
      Run.accepted (Update.apply store.text) u calls = calls ∧
      HoldOneTable store table pairs (Run.after (Insert.apply store.text) i calls)
        (Run.after (Update.apply store.text) u calls) := by
  intro calls
  obtain ⟨hAfter, hInserts, hUpdates⟩ := (InStep.start hInsert hUpdate).after store.text pairs
  -- what the UPDATE statement holds is known: the table, and what the pairs add up to
  have hUpdated : Run.after (Update.apply store.text) u calls =
      Update.ofSupplied table pairs .null := by
    rw [(Update.create_eq hUpdate).1]
    exact InStep.update_after store.text table pairs
  have hEmpty : (Run.after (Update.apply store.text) u calls).assignments = [] ↔ pairs = [] := by
    rw [hUpdated]
    exact Update.assigned_eq_nil pairs
  have hTable : (Run.after (Update.apply store.text) u calls).table = table := by
    rw [hUpdated]
    rfl
  have hOne := hAfter.holdOneTable store hEmpty
  rw [hTable] at hOne
  exact ⟨hInserts, hUpdates, hOne⟩

/-- Two columns, the first of which is set twice. -/
theorem hold_one_table_of_users :
    let pairs := [("name", "'a'"), ("age", "30"), ("name", "'b'")]
    let inserted := Run.after (Insert.apply (Store.text {})) { table := .text "users" }
      (InStep.assignments pairs)
    let updated := Run.after (Update.apply (Store.text {})) { table := .text "users" }
      (InStep.assignments pairs)
    HoldOneTable {} (.text "users") pairs inserted updated ∧
      updated.assignments = [(.text "name", .text "'b'"), (.text "age", .text "30")] ∧
      (inserted.apply (Store.text {}) .build).reply.result =
        .ok (.built "INSERT INTO users (name, age) VALUES ('b', 30);") ∧
      (updated.apply (Store.text {}) .build).reply.result =
        .ok (.built "UPDATE users SET name = 'b', age = 30;") := by
  intro pairs inserted updated
  have hInsert : Insert.create (.text "users") = .ok { table := .text "users" } := rfl
  have hUpdate : Update.create (.text "users") = .ok { table := .text "users" } := rfl
  obtain ⟨-, -, hOne⟩ := insert_and_update_hold_one_table {} hInsert hUpdate pairs
  have hSome : pairs ≠ [] := by decide
  exact ⟨hOne, rfl, (hOne.insert_text hSome).trans rfl, (hOne.update_text hSome).trans rfl⟩

end SqlCompose
