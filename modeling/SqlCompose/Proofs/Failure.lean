import Mathlib.Data.List.Basic
import SqlCompose.Proofs.Held
import SqlCompose.Proofs.Outcome
import SqlCompose.Proofs.Report

/-!
# SqlCompose — when building fails

A statement takes values of any type, and nearly all of them can be written:
only the rows (the columns, the values, the grouping columns) ask for texts. So
if no other statement is among the fragments, what building fails with can be
read off the clauses:

* a SELECT statement fails on the first item of a row that is no text, and since
  its rows only grow, it then fails for good;
* an INSERT statement fails if its rows do not match or are empty, and else on
  such an item;
* an UPDATE statement fails on nothing but the lack of an assignment;
* a DELETE statement does not fail.

Main results:

* `Store.result_textWithin` — whatever is no statement can be written.
* `Statement.filterMap_written` — the statements among what is written are those
  among the fragments.
* `Select.rows_after` — the rows of a SELECT statement only grow.
* `Statement.failures_of_build` — the failures of each kind after a run.
-/

namespace SqlCompose

open Value Clause

/-! ## What can be written -/

namespace Store

variable (store : Store)

/-- Whatever is no statement can be written, at any depth. -/
theorem result_textWithin (depth : Nat) {v : Value} (h : v.reference? = none) :
    (store.textWithin depth v).result = .ok (v.formatted store.nameplate) := by
  cases v with
  | statement ref => cases h
  | _ => cases depth <;> rfl

/-- A value that is no statement always has a text. -/
theorem faults_text {v : Value} (h : v.reference? = none) : store.text.faults v = [] :=
  Rendering.faults_eq_nil (store.result_textWithin store.size h)

/-- The faults of values are those of the statements among them. -/
theorem flatMap_faults (row : List Value) :
    row.flatMap store.text.faults =
      (row.filterMap Value.reference?).flatMap fun ref => store.text.faults (.statement ref) := by
  induction row with
  | nil => rfl
  | cons v rest ih =>
    rw [List.flatMap_cons, ih]
    cases v with
    | statement ref => rfl
    | _ => rw [store.faults_text rfl]; rfl

end Store

/-! ## The statements among the fragments -/

section References

/-! In every role but that of an item a value stands for the statement that it is. -/

@[simp] theorem Fragment.reference?_table (v : Value) :
    Fragment.reference? ⟨.table, v⟩ = v.reference? := rfl

@[simp] theorem Fragment.reference?_part (v : Value) :
    Fragment.reference? ⟨.part, v⟩ = v.reference? := rfl

@[simp] theorem Fragment.reference?_optional (v : Value) :
    Fragment.reference? ⟨.optional, v⟩ = v.reference? := rfl

/-- Counts refer to no statement. -/
@[simp] theorem flatMap_ofCount (count : Option Value) :
    (Fragment.ofCount count).flatMap (fun f => f.reference?.toList) = [] := by
  simp [Fragment.ofCount, Fragment.reference?]

/-- Nor do the items of lists, since a statement is refused there as no text. -/
@[simp] theorem flatMap_items (row : List Value) :
    (Fragment.items row).flatMap (fun f => f.reference?.toList) = [] := by
  simp [Fragment.items, Fragment.reference?]

/-- A statement is never taken for an alias that is absent. -/
@[simp] theorem flatMap_named (name : Value) :
    (named name).flatMap (fun v => v.reference?.toList) = name.reference?.toList := by
  cases name with
  | statement ref => rfl
  | _ => simp only [named]; split <;> rfl

/-- A statement is never taken for a condition that is absent. -/
@[simp] theorem flatMap_present (body : Value) :
    (present body).flatMap (fun v => v.reference?.toList) = body.reference?.toList := by
  cases body with
  | statement ref => rfl
  | _ => simp only [present]; split <;> rfl

/-- The statements among what is written are those among the fragments. -/
theorem Statement.filterMap_written (s : Statement) :
    s.written.filterMap Value.reference? = s.references := by
  rw [references, List.filterMap_eq_flatMap_toList, List.filterMap_eq_flatMap_toList]
  cases s with
  | select s =>
    simp [written, held, Select.before, Select.behind, Select.held, Join.written, Join.held,
      List.flatMap_assoc, List.flatMap_map]
  | insert s => simp [written, held, Insert.held]
  | update s =>
    simp [written, held, Update.written, Update.held, Fragment.ofEntry, List.flatMap_assoc]
  | delete s => simp [written, held, Delete.written, Delete.held]

end References

/-! ## The first item that is no text -/

/-- An item that is no text, at its place, behind nothing but texts. -/
structure Value.FirstNonText (row : List Value) (place : Nat) (item : Value) : Prop where
  at_place : row[place]? = some item
  no_text  : item.isText = false
  texts    : ∀ (earlier : Nat) (v : Value), earlier < place → row[earlier]? = some v →
    v.isText = true

namespace Value

/-- Behind a text the places are one further on. -/
theorem firstNonText_cons_of_isText {first : Value} (h : first.isText = true) {rest : List Value}
    {place : Nat} {item : Value} :
    FirstNonText (first :: rest) place item ↔
      ∃ n, place = n + 1 ∧ FirstNonText rest n item := by
  constructor
  · rintro ⟨hAt, hNoText, hTexts⟩
    cases place with
    | zero =>
      rw [List.getElem?_cons_zero, Option.some.injEq] at hAt
      rw [hAt, hNoText] at h
      cases h
    | succ n =>
      refine ⟨n, rfl, hAt, hNoText, fun earlier v hEarlier hv => ?_⟩
      exact hTexts (earlier + 1) v (by omega) hv
  · rintro ⟨n, rfl, hAt, hNoText, hTexts⟩
    refine ⟨hAt, hNoText, fun earlier v hEarlier hv => ?_⟩
    cases earlier with
    | zero =>
      rw [List.getElem?_cons_zero, Option.some.injEq] at hv
      exact hv ▸ h
    | succ n => exact hTexts n v (by omega) hv

/-- The first item that is no text, if the row begins with it. -/
theorem firstNonText_cons {first : Value} (h : first.isText = false) {rest : List Value}
    {place : Nat} {item : Value} :
    FirstNonText (first :: rest) place item ↔ place = 0 ∧ item = first := by
  constructor
  · rintro ⟨hAt, -, hTexts⟩
    cases place with
    | zero =>
      rw [List.getElem?_cons_zero, Option.some.injEq] at hAt
      exact ⟨rfl, hAt.symm⟩
    | succ n =>
      have hFirst := hTexts 0 first (by omega) rfl
      rw [h] at hFirst
      cases hFirst
  · rintro ⟨rfl, rfl⟩
    exact ⟨rfl, h, fun earlier v hEarlier => absurd hEarlier (Nat.not_lt_zero _)⟩

/-- The first of the faults of a row is that of its first item that is no text. -/
theorem head?_rowFaults {first : Nat} {row : List Value} {fault : Fault} :
    (rowFaults first row).head? = some fault ↔
      ∃ place item, FirstNonText row place item ∧ fault = .notText (first + place) item := by
  induction row generalizing first with
  | nil =>
    constructor
    · intro h
      cases h
    · rintro ⟨place, item, ⟨hAt, -, -⟩, -⟩
      cases hAt
  | cons head rest ih =>
    rw [rowFaults]
    cases hText : head.isText with
    | true =>
      -- the first item that is no text is one place farther back than in the rest
      rw [if_pos rfl, ih]
      constructor
      · rintro ⟨place, item, hFirst, rfl⟩
        refine ⟨place + 1, item, (firstNonText_cons_of_isText hText).mpr ⟨place, rfl, hFirst⟩, ?_⟩
        rw [Nat.add_assoc, Nat.add_comm 1]
      · rintro ⟨place, item, hFirst, rfl⟩
        obtain ⟨n, rfl, hRest⟩ := (firstNonText_cons_of_isText hText).mp hFirst
        exact ⟨n, item, hRest, by rw [Nat.add_assoc, Nat.add_comm 1]⟩
    | false =>
      rw [if_neg Bool.false_ne_true, List.head?_cons, Option.some.injEq]
      constructor
      · rintro rfl
        exact ⟨0, head, (firstNonText_cons hText).mpr ⟨rfl, rfl⟩, rfl⟩
      · rintro ⟨place, item, hFirst, rfl⟩
        obtain ⟨rfl, rfl⟩ := (firstNonText_cons hText).mp hFirst
        rfl

/-- What is wrong with an item is its type. -/
theorem errorClass_of_mem_rowFaults {first : Nat} {row : List Value} {fault : Fault}
    (h : fault ∈ rowFaults first row) : fault.errorClass = .type := by
  induction row generalizing first with
  | nil => cases h
  | cons item rest ih =>
    rw [rowFaults] at h
    split at h
    · exact ih h
    · rcases List.mem_cons.mp h with rfl | hRest
      · rfl
      · exact ih hRest

/-- Two rows have no faults if all their items are texts. -/
theorem append_rowFaults_eq_nil {row other : List Value} :
    rowFaults 0 row ++ rowFaults 0 other = [] ↔ ∀ v ∈ row ++ other, v.isText = true := by
  rw [List.append_eq_nil_iff, rowFaults_eq_nil, rowFaults_eq_nil, List.forall_mem_append]

end Value

/-! ## Failing -/

namespace Statement

/-- Building the text of a statement fails with a cause. -/
def FailsWith (text : Rendering) (s : Statement) (fault : Fault) : Prop :=
  (s.apply text .build).reply.result = .error fault

/-- Building fails with the first of the reasons. -/
theorem failsWith_iff {text : Rendering} {s : Statement} {fault : Fault} :
    s.FailsWith text fault ↔ (s.faults text).head? = some fault := by
  rw [FailsWith, result_build, outcomeOf_eq_error]

/-- It fails at all exactly if there is a reason. -/
theorem exists_failsWith_iff {text : Rendering} {s : Statement} :
    (∃ fault, s.FailsWith text fault) ↔ s.faults text ≠ [] := by
  simp only [failsWith_iff, ne_eq, ← List.head?_eq_none_iff, Option.ne_none_iff_exists']

/-- What calls leave of a SELECT statement is a SELECT statement again, with the same calls made on
it. -/
theorem after_select (text : Rendering) (s : Select) (calls : List Call) :
    Run.after (apply text) (.select s) calls = .select (Run.after (Select.apply text) s calls) := by
  induction calls generalizing s with
  | nil => rfl
  | cons call rest ih => exact ih _

/-- What is written of a statement without other statements in it has no faults. -/
theorem faults_written (store : Store) {s : Statement} (h : s.references = []) :
    s.written.flatMap store.text.faults = [] := by
  rw [store.flatMap_faults, s.filterMap_written, h, List.flatMap_nil]

end Statement

open Statement

namespace Select

/-- The first item that is no text, of the columns and else of the grouping columns. -/
def FirstNonText (s : Select) (place : Nat) (item : Value) : Prop :=
  Value.FirstNonText s.columns place item ∨
    (∀ v ∈ s.columns, v.isText = true) ∧ Value.FirstNonText s.groupColumns place item

/-- The columns and the grouping columns stay, whatever is called; more may follow them. -/
theorem rows_apply (text : Rendering) (s : Select) (call : Call) :
    s.columns <+: (s.apply text call).state.columns ∧
      s.groupColumns <+: (s.apply text call).state.groupColumns := by
  have hRefl : s.columns <+: s.columns ∧ s.groupColumns <+: s.groupColumns :=
    ⟨List.prefix_rfl, List.prefix_rfl⟩
  rw [state_apply]
  refine Answer.stateOf_cases (p := fun s' : Select =>
    s.columns <+: s'.columns ∧ s.groupColumns <+: s'.groupColumns) (fun change hChange => ?_) hRefl
  cases call with
  | columns given =>
    obtain ⟨added, -, rfl⟩ := exists_of_map_eq_ok hChange
    exact ⟨List.prefix_append .., List.prefix_rfl⟩
  | groupColumns given =>
    obtain ⟨added, -, rfl⟩ := exists_of_map_eq_ok hChange
    exact ⟨List.prefix_rfl, List.prefix_append ..⟩
  -- no other call is about a row
  | join kind table on name | orderTerm column direction | limit count | offset count =>
    obtain ⟨checked, -, rfl⟩ := exists_of_map_eq_ok hChange
    exact hRefl
  | tableAlias name | joinOf kind table on name | condition body | groupCondition body | build =>
    cases hChange
    exact hRefl
  | values given | assign column value => cases hChange

/-- The rows of a SELECT statement only grow. -/
theorem rows_after (text : Rendering) (s : Select) (calls : List Call) :
    s.columns <+: (Run.after (apply text) s calls).columns ∧
      s.groupColumns <+: (Run.after (apply text) s calls).groupColumns := by
  induction calls generalizing s with
  | nil => exact ⟨List.prefix_rfl, List.prefix_rfl⟩
  | cons call rest ih =>
    obtain ⟨hColumns, hGroup⟩ := rows_apply text s call
    exact (ih _).imp hColumns.trans hGroup.trans

/-- An item of a row that is no text is a fault, wherever else there are more. -/
theorem faults_ne_nil_of_rows {text : Rendering} {s : Select}
    (h : ¬ ∀ v ∈ s.columns ++ s.groupColumns, v.isText = true) : s.faults text ≠ [] := by
  rw [← append_rowFaults_eq_nil, List.append_eq_nil_iff] at h
  simp only [faults, ne_eq, List.append_eq_nil_iff]
  tauto

/-- How a SELECT statement fails. -/
structure Failures (store : Store) (s : Select) : Prop where
  exactly : (∃ fault, FailsWith store.text (.select s) fault) ↔
    ∃ v ∈ s.columns ++ s.groupColumns, v.isText = false
  first   : ∀ fault, FailsWith store.text (.select s) fault ↔
    ∃ place item, s.FirstNonText place item ∧ fault = .notText place item
  named   : ∀ fault, FailsWith store.text (.select s) fault → fault.errorClass = .type ∧
    ∃ place item, s.FirstNonText place item ∧
      fault.message store.nameplate = "sequence item " ++ toString place ++
        ": expected str instance, " ++ item.typeName store.nameplate ++ " found"
  lasting : (∃ fault, FailsWith store.text (.select s) fault) →
    ∀ (text later : Rendering) (more : List Call),
      ∃ fault, FailsWith later (Run.after (Statement.apply text) (.select s) more) fault

/-- Without other statements in it a SELECT statement has the faults of its rows. -/
theorem faults_eq_rows (store : Store) {s : Select} (h : (Statement.select s).references = []) :
    s.faults store.text = rowFaults 0 s.columns ++ rowFaults 0 s.groupColumns := by
  have hWritten : (s.before ++ s.behind).flatMap store.text.faults = [] :=
    faults_written store h
  rw [List.flatMap_append, List.append_eq_nil_iff] at hWritten
  rw [faults, hWritten.1, hWritten.2, List.append_nil, List.append_nil]

/-- **When building a SELECT statement fails, and how**, if it refers to no other statement. -/
theorem failures (store : Store) {s : Select} (h : (Statement.select s).references = []) :
    s.Failures store := by
  have hFaults := faults_eq_rows store h
  have hExactly : (∃ fault, FailsWith store.text (.select s) fault) ↔
      ¬ ∀ v ∈ s.columns ++ s.groupColumns, v.isText = true := by
    rw [exists_failsWith_iff, Statement.faults, hFaults, ne_eq, append_rowFaults_eq_nil]
  have hFirst : ∀ fault, FailsWith store.text (.select s) fault ↔
      ∃ place item, s.FirstNonText place item ∧ fault = .notText place item := by
    intro fault
    have hHead : FailsWith store.text (.select s) fault ↔
        (rowFaults 0 s.columns ++ rowFaults 0 s.groupColumns).head? = some fault :=
      hFaults ▸ failsWith_iff
    -- the columns are asked first, the grouping columns only if all columns are texts
    rw [hHead, List.head?_append, Option.or_eq_some_iff, List.head?_eq_none_iff, rowFaults_eq_nil,
      head?_rowFaults, head?_rowFaults]
    simp only [Nat.zero_add, FirstNonText]
    constructor
    · rintro (⟨place, item, hColumns, rfl⟩ | ⟨hTexts, place, item, hGroup, rfl⟩)
      · exact ⟨place, item, Or.inl hColumns, rfl⟩
      · exact ⟨place, item, Or.inr ⟨hTexts, hGroup⟩, rfl⟩
    · rintro ⟨place, item, hColumns | ⟨hTexts, hGroup⟩, rfl⟩
      · exact Or.inl ⟨place, item, hColumns, rfl⟩
      · exact Or.inr ⟨hTexts, place, item, hGroup, rfl⟩
  refine ⟨by simpa using hExactly, hFirst, fun fault hFails => ?_, fun hFails text later more => ?_⟩
  · obtain ⟨place, item, hItem, rfl⟩ := (hFirst fault).mp hFails
    exact ⟨rfl, place, item, hItem, rfl⟩
  · -- the item that is no text is still in its row
    obtain ⟨hColumns, hGroup⟩ := rows_after text s more
    rw [after_select, exists_failsWith_iff]
    refine faults_ne_nil_of_rows fun hTexts => hExactly.mp hFails fun v hv => hTexts v ?_
    rw [List.mem_append] at hv ⊢
    exact hv.imp (hColumns.subset ·) (hGroup.subset ·)

end Select

namespace Insert

/-- The rows do not match, or there is nothing in them. -/
def HasNoRow (s : Insert) : Prop :=
  s.columns.length ≠ s.values.length ∨ s.columns = [] ∧ s.values = []

/-- How an INSERT statement fails. -/
structure Failures (store : Store) (s : Insert) : Prop where
  refused : (∃ fault, FailsWith store.text (.insert s) fault ∧ fault.errorClass = .statement) ↔
    s.HasNoRow
  untyped : (∃ fault, FailsWith store.text (.insert s) fault ∧ fault.errorClass = .type) ↔
    ¬ s.HasNoRow ∧ ∃ v ∈ s.columns ++ s.values, v.isText = false
  either  : ∀ fault, FailsWith store.text (.insert s) fault →
    fault.errorClass = .statement ∨ fault.errorClass = .type

variable (store : Store) {s : Insert}

/-- Without a row the statement has the one fault that says so. -/
theorem faults_of_hasNoRow (h : (Statement.insert s).references = []) (hNoRow : s.HasNoRow) :
    ∃ fault, s.faults store.text = [fault] ∧ fault.errorClass = .statement := by
  have hTable : store.text.faults s.table = [] := by simpa [written] using faults_written store h
  rcases hNoRow with hLengths | ⟨hColumns, hValues⟩
  · have hAligned : ¬ s.isAligned = true := by simpa [isAligned] using hLengths
    exact ⟨_, by rw [faults, if_neg hAligned, hTable, List.nil_append], rfl⟩
  · have hAligned : s.isAligned = true := by simp [isAligned, hColumns, hValues]
    have hEmpty : s.columns.isEmpty = true := by simp [hColumns]
    exact ⟨_, by rw [faults, if_pos hAligned, if_pos hEmpty, hTable, List.nil_append], rfl⟩

/-- With a row it has the faults of its table and of its lists. -/
theorem faults_of_not_hasNoRow (text : Rendering) (hRow : ¬ s.HasNoRow) :
    s.faults text = text.faults s.table ++ rowFaults 0 s.columns ++ rowFaults 0 s.values := by
  rw [HasNoRow, not_or, not_not] at hRow
  obtain ⟨hLengths, hFull⟩ := hRow
  have hAligned : s.isAligned = true := by simpa [isAligned] using hLengths
  have hEmpty : ¬ s.columns.isEmpty = true := fun hNone => by
    rw [List.isEmpty_iff] at hNone
    rw [hNone, List.length_nil, eq_comm, List.length_eq_zero_iff] at hLengths
    exact hFull ⟨hNone, hLengths⟩
  rw [faults, if_pos hAligned, if_neg hEmpty]

/-- **When building an INSERT statement fails, and how.** -/
theorem failures (h : (Statement.insert s).references = []) : s.Failures store := by
  by_cases hNoRow : s.HasNoRow
  · obtain ⟨refusal, hFaults, hClass⟩ := faults_of_hasNoRow store h hNoRow
    have hOnly : ∀ fault, FailsWith store.text (.insert s) fault ↔ refusal = fault := by
      intro fault
      rw [failsWith_iff, Statement.faults, hFaults, List.head?_cons, Option.some.injEq]
    -- the refusal is all that there is, whatever is in the lists
    refine ⟨⟨fun _ => hNoRow, fun _ => ⟨refusal, (hOnly refusal).mpr rfl, hClass⟩⟩,
      ⟨?_, fun hFails => absurd hNoRow hFails.1⟩, fun fault hFails => ?_⟩
    · rintro ⟨fault, hFails, hType⟩
      rw [← (hOnly fault).mp hFails, hClass] at hType
      cases hType
    · exact Or.inl ((hOnly fault).mp hFails ▸ hClass)
  · -- a row there is, so only its items can be wrong
    have hTable : store.text.faults s.table = [] := by simpa [written] using faults_written store h
    have hFaults : s.faults store.text = rowFaults 0 s.columns ++ rowFaults 0 s.values := by
      rw [faults_of_not_hasNoRow _ hNoRow, hTable, List.nil_append]
    have hType : ∀ fault, FailsWith store.text (.insert s) fault → fault.errorClass = .type := by
      intro fault hFails
      rw [failsWith_iff, Statement.faults, hFaults] at hFails
      exact (List.mem_append.mp (List.mem_of_head? hFails)).elim errorClass_of_mem_rowFaults
        errorClass_of_mem_rowFaults
    have hFails : (∃ fault, FailsWith store.text (.insert s) fault) ↔
        ∃ v ∈ s.columns ++ s.values, v.isText = false := by
      rw [exists_failsWith_iff, Statement.faults, hFaults, ne_eq, append_rowFaults_eq_nil]
      simp
    refine ⟨⟨?_, fun hRefused => absurd hRefused hNoRow⟩, ?_, fun fault hAny =>
      Or.inr (hType fault hAny)⟩
    · rintro ⟨fault, hAny, hClass⟩
      rw [hType fault hAny] at hClass
      cases hClass
    · rw [← hFails]
      exact ⟨fun ⟨fault, hAny, _⟩ => ⟨hNoRow, fault, hAny⟩,
        fun ⟨_, fault, hAny⟩ => ⟨fault, hAny, hType fault hAny⟩⟩

end Insert

namespace Update

/-- How an UPDATE statement fails. -/
structure Failures (store : Store) (s : Update) : Prop where
  exactly : (∃ fault, FailsWith store.text (.update s) fault) ↔ s.assignments = []
  refused : ∀ fault, FailsWith store.text (.update s) fault → fault.errorClass = .statement

/-- **When building an UPDATE statement fails, and how.** -/
theorem failures (store : Store) {s : Update} (h : (Statement.update s).references = []) :
    s.Failures store := by
  have hWritten : s.written.flatMap store.text.faults = [] := faults_written store h
  by_cases hEmpty : s.assignments = []
  · have hTable : store.text.faults s.table = [] := by
      simp only [Update.written, List.flatMap_append, List.append_eq_nil_iff] at hWritten
      simpa using hWritten.1.2
    have hFaults : (Statement.update s).faults store.text =
        [.noAssignments (store.text.write s.table)] := by
      rw [Statement.faults, faults, if_pos (List.isEmpty_iff.mpr hEmpty), hTable, List.nil_append]
    refine ⟨by simp [exists_failsWith_iff, hFaults, hEmpty], fun fault hFails => ?_⟩
    rw [failsWith_iff, hFaults, List.head?_cons, Option.some.injEq] at hFails
    rw [← hFails]
    rfl
  · have hFaults : (Statement.update s).faults store.text = [] := by
      rw [Statement.faults, faults, if_neg (List.isEmpty_iff.not.mpr hEmpty), hWritten]
    refine ⟨by simp [exists_failsWith_iff, hFaults, hEmpty], fun fault hFails => ?_⟩
    rw [failsWith_iff, hFaults] at hFails
    cases hFails

end Update

namespace Statement

/-- How building the text of a statement fails, by its kind. -/
def Failures (store : Store) : Statement → Prop
  | select s => s.Failures store
  | insert s => s.Failures store
  | update s => s.Failures store
  | delete s => ∀ fault, ¬ FailsWith store.text (.delete s) fault

/-- The same for whichever kind a statement is of. -/
theorem failures (store : Store) {s : Statement} (h : s.references = []) : s.Failures store := by
  cases s with
  | select s => exact s.failures store h
  | insert s => exact s.failures store h
  | update s => exact s.failures store h
  | delete s =>
    intro fault hFails
    rw [failsWith_iff, faults, Delete.faults, show s.written.flatMap _ = [] from
      faults_written store h] at hFails
    cases hFails

/-- Building after a run of calls without statements among their arguments fails by the kind of the
statement. -/
theorem failures_of_build (store : Store) {kind : StatementKind} {table : Value}
    {fresh : Statement} (hFresh : create kind table = .ok fresh) {calls : List Call}
    (hCalls : ∀ call ∈ calls, ∀ f ∈ call.handed kind, f.reference? = none) :
    (Run.after (apply store.text) fresh calls).kind = kind ∧
      (Run.after (apply store.text) fresh calls).Failures store := by
  obtain ⟨hKind, hText, -⟩ := create_facts hFresh
  -- a table counts as text, which no statement does
  have hTable : Fragment.reference? ⟨.table, table⟩ = none := by
    cases table with
    | statement ref => cases hText
    | _ => rfl
  refine ⟨(kind_after ..).trans hKind, failures store ?_⟩
  rw [references, List.filterMap_eq_nil_iff]
  exact forall_held_after hFresh (p := fun f => f.reference? = none) hTable rfl hCalls

/-- Values of all types, two of which are no texts in a list of columns. -/
def salesRun : List Call :=
  [.columns (.list [.text "region", .order .descending, .int 3]), .tableAlias (.tuple [.null]),
    .condition (.dict [(.text "year", .int 2024)]), .limit (.bool true),
    .groupColumns (.tuple [.text "region"]), .columns (.list [.null])]

theorem failures_of_salesRun :
    ∃ fresh, create .select (.text "sales") = .ok fresh ∧
      (Run.after (apply (Store.text {})) fresh salesRun).Failures {} ∧
      FailsWith (Store.text {}) (Run.after (apply (Store.text {})) fresh salesRun)
        (.notText 2 (.int 3)) := by
  have hCalls : ∀ call ∈ salesRun, ∀ f ∈ call.handed .select, f.reference? = none := by decide
  have hFresh : create .select (.text "sales") = .ok (.select { table := .text "sales" }) := rfl
  exact ⟨_, hFresh, (failures_of_build {} hFresh hCalls).2, rfl⟩

end Statement

end SqlCompose
