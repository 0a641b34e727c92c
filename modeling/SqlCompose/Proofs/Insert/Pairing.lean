import SqlCompose.Proofs.Insert.Places

/-!
# SqlCompose — columns and values of an INSERT statement stay paired

The two lists of an INSERT statement may be grown in any order, but a column and
its value must meet at one place. The invariant that carries this
(`Insert.Paired`) counts the entries that were added by setting single columns:
there are as many in either list, since setting is refused while the lists
differ in length. Between the arrival of the `k`-th column and that of the
`k`-th value the lists do differ, so nothing is set meanwhile, and both find the
same number of such entries before them.

Main results:

* `Insert.paired_after_run` — the invariant holds after every run.
* `Insert.run_pairs_columns_and_values` — what it says of the difference in
  length, of setting, of the places of columns and values, and of the text.
-/

namespace SqlCompose

namespace Insert

/-! ## The invariant -/

/-- The lists of a statement, the columns and values that were passed to it in bulk, and the places
that they got. Whether a value was replaced, and by which, is handed in. -/
structure Paired (s : Insert) (columns values : List Value) (columnPlaces valuePlaces : List Nat)
    (replaced : Nat → Value → Value → Prop) : Prop where
  columnPlaces_length : columnPlaces.length = columns.length
  valuePlaces_length : valuePlaces.length = values.length
  /-- Either list has the same number of entries besides, and what is not matched yet stands behind
  all of them. -/
  besides : ∃ n, s.columns.length = columns.length + n ∧ s.values.length = values.length + n ∧
    (∀ k, values.length ≤ k → k < columns.length → columnPlaces[k]? = some (k + n)) ∧
    (∀ k, columns.length ≤ k → k < values.length → valuePlaces[k]? = some (k + n))
  /-- What is matched stands at one place. -/
  matched : ∀ k : Nat, k < columns.length → k < values.length → columnPlaces[k]? = valuePlaces[k]?
  column_at : ∀ k p : Nat, columnPlaces[k]? = some p → s.columns[p]? = columns[k]?
  value_at : ∀ k p : Nat, valuePlaces[k]? = some p → s.values[p]? = values[k]? ∨
    ∃ c w, columns[k]? = some c ∧ replaced k c w ∧ s.values[p]? = some w

/-- Places behind a row: the entry that is passed as the `k`-th gets the `k`-th place, moved by the
entries that were not passed. -/
theorem getElem?_places_append {passed added : List Value} {places : List Nat} {size n k : Nat}
    (hPlaces : places.length = passed.length) (hSize : size = passed.length + n)
    (hLow : passed.length ≤ k) (hHigh : k < (passed ++ added).length) :
    (places ++ List.range' size added.length)[k]? = some (k + n) := by
  rw [List.length_append] at hHigh
  rw [List.getElem?_append_right (by omega), List.getElem?_range' (by omega)]
  congr 1
  omega

/-- Entries that have no partner yet, `others` being the number of possible partners, stand behind
all that were not passed, whether they came before or with the last call. -/
theorem getElem?_places_late {passed added : List Value} {places : List Nat}
    {size n others k : Nat} (hPlaces : places.length = passed.length)
    (hSize : size = passed.length + n)
    (hLate : ∀ k, others ≤ k → k < passed.length → places[k]? = some (k + n)) (hLow : others ≤ k)
    (hHigh : k < (passed ++ added).length) :
    (places ++ List.range' size added.length)[k]? = some (k + n) := by
  by_cases hOld : k < passed.length
  · rw [List.getElem?_append_left (by rw [hPlaces]; exact hOld)]
    exact hLate k hLow hOld
  · exact getElem?_places_append hPlaces hSize (by omega) hHigh

/-- Entries that were there keep their place when a row is appended to. -/
theorem getElem?_append_of_some {row added : List Value} {p : Nat} {v : Value}
    (h : row[p]? = some v) : (row ++ added)[p]? = some v := by
  have hLt : p < row.length := (List.getElem?_eq_some_iff.mp h).1
  rw [List.getElem?_append_left hLt, h]

/-- What was said of the entries of a row holds of the row with more entries, each at its place. -/
theorem getElem?_append_places {row passed added : List Value} {places : List Nat} {n k p : Nat}
    (hPlaces : places.length = passed.length) (hRow : row.length = passed.length + n)
    (hNew : passed.length ≤ k)
    (h : (places ++ List.range' row.length added.length)[k]? = some p) :
    (row ++ added)[p]? = (passed ++ added)[k]? := by
  have hHigh : k < (passed ++ added).length := by
    have hLt := (List.getElem?_eq_some_iff.mp h).1
    rw [List.length_append, List.length_range'] at hLt
    rw [List.length_append]
    omega
  -- the `k`-th entry is at place `k + n`, both counted behind what was there
  rw [getElem?_places_append hPlaces hRow hNew hHigh] at h
  cases h
  rw [List.getElem?_append_right (by omega), List.getElem?_append_right hNew]
  congr 1
  omega

/-! ## One call -/

variable {s : Insert} {columns values : List Value} {columnPlaces valuePlaces : List Nat}
  {replaced : Nat → Value → Value → Prop}

/-- A value that was passed in bulk is matched, so it has a column, as soon as the lists are
equally long. -/
theorem Paired.length_eq (h : Paired s columns values columnPlaces valuePlaces replaced)
    (hAligned : s.columns.length = s.values.length) : columns.length = values.length := by
  obtain ⟨n, hColumns, hValues, -, -⟩ := h.besides
  omega

/-- The invariant is kept when both lists are appended to, each by its own amount. -/
theorem Paired.append (h : Paired s columns values columnPlaces valuePlaces replaced)
    (newColumns newValues : List Value) :
    Paired { s with columns := s.columns ++ newColumns, values := s.values ++ newValues }
      (columns ++ newColumns) (values ++ newValues)
      (columnPlaces ++ List.range' s.columns.length newColumns.length)
      (valuePlaces ++ List.range' s.values.length newValues.length) replaced := by
  obtain ⟨n, hColumns, hValues, hLateColumns, hLateValues⟩ := h.besides
  -- a column that comes without a value before it, be it old or new, is moved by `n`
  have hColumnPlace : ∀ k, values.length ≤ k → k < (columns ++ newColumns).length →
      (columnPlaces ++ List.range' s.columns.length newColumns.length)[k]? = some (k + n) :=
    fun k => getElem?_places_late h.columnPlaces_length hColumns hLateColumns
  have hValuePlace : ∀ k, columns.length ≤ k → k < (values ++ newValues).length →
      (valuePlaces ++ List.range' s.values.length newValues.length)[k]? = some (k + n) :=
    fun k => getElem?_places_late h.valuePlaces_length hValues hLateValues
  -- the number of entries that were not passed in bulk stays the same
  refine ⟨?_, ?_, ⟨n, ?_, ?_, ?_, ?_⟩, ?_, ?_, ?_⟩
  · rw [List.length_append, List.length_append, List.length_range', h.columnPlaces_length]
  · rw [List.length_append, List.length_append, List.length_range', h.valuePlaces_length]
  · simp only [List.length_append]
    omega
  · simp only [List.length_append]
    omega
  · intro k hLow hHigh
    rw [List.length_append] at hLow
    exact hColumnPlace k (by omega) hHigh
  · intro k hLow hHigh
    rw [List.length_append] at hLow
    exact hValuePlace k (by omega) hHigh
  · intro k hColumn hValue
    by_cases hOld : k < columns.length ∧ k < values.length
    · rw [List.getElem?_append_left (by rw [h.columnPlaces_length]; exact hOld.1),
        List.getElem?_append_left (by rw [h.valuePlaces_length]; exact hOld.2)]
      exact h.matched k hOld.1 hOld.2
    · -- the one that comes last is moved by `n`, and so was the one that waited for it
      by_cases hLate : values.length ≤ k
      · rw [hColumnPlace k hLate hColumn,
          getElem?_places_append h.valuePlaces_length hValues hLate hValue]
      · rw [hValuePlace k (by omega) hValue,
          getElem?_places_append h.columnPlaces_length hColumns (by omega) hColumn]
  · -- old columns keep their places, new ones are where the call put them
    intro k p hPlace
    by_cases hOld : k < columns.length
    · rw [List.getElem?_append_left (by rw [h.columnPlaces_length]; exact hOld)] at hPlace
      have hAt := h.column_at k p hPlace
      rw [List.getElem?_eq_getElem hOld] at hAt
      rw [getElem?_append_of_some hAt, List.getElem?_append_left hOld,
        List.getElem?_eq_getElem hOld]
    · exact getElem?_append_places h.columnPlaces_length hColumns (by omega) hPlace
  · intro k p hPlace
    by_cases hOld : k < values.length
    · rw [List.getElem?_append_left (by rw [h.valuePlaces_length]; exact hOld)] at hPlace
      rcases h.value_at k p hPlace with hAt | ⟨c, w, hColumn, hReplaced, hAt⟩
      · left
        rw [List.getElem?_eq_getElem hOld] at hAt
        rw [getElem?_append_of_some hAt, List.getElem?_append_left hOld,
          List.getElem?_eq_getElem hOld]
      · exact Or.inr ⟨c, w, getElem?_append_of_some hColumn, hReplaced,
          getElem?_append_of_some hAt⟩
    · exact Or.inl (getElem?_append_places h.valuePlaces_length hValues (by omega) hPlace)

/-- Where the lists are equally long, everything passed is matched. -/
theorem Paired.column_of_valuePlace
    (h : Paired s columns values columnPlaces valuePlaces replaced)
    (hAligned : s.columns.length = s.values.length) {k p : Nat}
    (hPlace : valuePlaces[k]? = some p) :
    k < values.length ∧ s.columns[p]? = columns[k]? := by
  have hLt : k < values.length := by
    rw [← h.valuePlaces_length]
    exact (List.getElem?_eq_some_iff.mp hPlace).1
  have hColumn : k < columns.length := by
    rw [h.length_eq hAligned]
    exact hLt
  have hSame := h.matched k hColumn hLt
  exact ⟨hLt, h.column_at k p (hSame.trans hPlace)⟩

/-- The invariant is kept when a column is set: a column that is there keeps its place and its value
is replaced, a new one goes to the end of both lists. -/
theorem Paired.assign (h : Paired s columns values columnPlaces valuePlaces replaced)
    (hAligned : s.columns.length = s.values.length)
    (hLiteral : ∀ c ∈ s.columns, c.isLiteral = true) {column value : Value}
    (hColumn : column.isLiteral = true) :
    Paired (s.assign column value) columns values columnPlaces valuePlaces
      (fun k c w => replaced k c w ∨ (k < values.length ∧ c = column ∧ w = value)) := by
  obtain ⟨n, hColumns, hValues, -, -⟩ := h.besides
  have hEqual := h.length_eq hAligned
  rw [Insert.assign]
  cases hIndex : columnIndex? column s.columns with
  | none =>
    -- a new column: one entry more in either list, and nothing passed is waiting for its partner
    refine ⟨h.columnPlaces_length, h.valuePlaces_length, ⟨n + 1, ?_, ?_, ?_, ?_⟩, h.matched,
      ?_, ?_⟩
    · simp only [List.length_append, List.length_singleton]
      omega
    · simp only [List.length_append, List.length_singleton]
      omega
    · intro k hLow hHigh
      omega
    · intro k hLow hHigh
      omega
    · intro k p hPlace
      have hLt : k < columns.length := by
        rw [← h.columnPlaces_length]
        exact (List.getElem?_eq_some_iff.mp hPlace).1
      have hAt := h.column_at k p hPlace
      rw [List.getElem?_eq_getElem hLt] at hAt ⊢
      exact getElem?_append_of_some hAt
    · intro k p hPlace
      have hLt := (h.column_of_valuePlace hAligned hPlace).1
      rcases h.value_at k p hPlace with hAt | ⟨c, w, hC, hReplaced, hAt⟩
      · left
        rw [List.getElem?_eq_getElem hLt] at hAt ⊢
        exact getElem?_append_of_some hAt
      · exact Or.inr ⟨c, w, hC, Or.inl hReplaced, getElem?_append_of_some hAt⟩
  | some index =>
    obtain ⟨hLt, hFound, -⟩ := List.findIdx?_eq_some_iff_getElem.mp hIndex
    -- the column that was found is the one that is set
    have hSame : s.columns[index] = column :=
      Value.eq_of_equal_literal (hLiteral _ (List.getElem_mem hLt)) hColumn hFound
    refine ⟨h.columnPlaces_length, h.valuePlaces_length, ⟨n, hColumns, ?_, ?_, ?_⟩, h.matched,
      h.column_at, ?_⟩
    · rw [List.length_set]
      exact hValues
    · intro k hLow hHigh
      omega
    · intro k hLow hHigh
      omega
    · intro k p hPlace
      obtain ⟨hPassed, hAt⟩ := h.column_of_valuePlace hAligned hPlace
      by_cases hHere : p = index
      · -- the value at this place is replaced, and its column is the one that is set
        subst hHere
        rw [List.getElem?_eq_getElem hLt, hSame] at hAt
        refine Or.inr ⟨column, value, hAt.symm, Or.inr ⟨hPassed, rfl, rfl⟩, ?_⟩
        rw [List.getElem?_set_self (by omega)]
      · rw [List.getElem?_set_ne (Ne.symm hHere)]
        rcases h.value_at k p hPlace with hValue | ⟨c, w, hC, hReplaced, hValue⟩
        · exact Or.inl hValue
        · exact Or.inr ⟨c, w, hC, Or.inl hReplaced, hValue⟩

/-- What was passed as the `k`-th in both lists stands at one place, unless the value was
replaced. -/
theorem Paired.together (h : Paired s columns values columnPlaces valuePlaces replaced) {k : Nat}
    {column value : Value} (hColumn : columns[k]? = some column)
    (hValue : values[k]? = some value) :
    ∃ p : Nat, columnPlaces[k]? = some p ∧ valuePlaces[k]? = some p ∧
      s.columns[p]? = some column ∧
      (s.values[p]? = some value ∨
        ∃ other, replaced k column other ∧ s.values[p]? = some other) := by
  have hColumnLt := (List.getElem?_eq_some_iff.mp hColumn).1
  have hValueLt := (List.getElem?_eq_some_iff.mp hValue).1
  have hMatched := h.matched k hColumnLt hValueLt
  rw [← h.columnPlaces_length] at hColumnLt
  have hPlace := List.getElem?_eq_getElem hColumnLt
  have hValuePlace := hMatched ▸ hPlace
  refine ⟨_, hPlace, hValuePlace, (h.column_at k _ hPlace).trans hColumn, ?_⟩
  rcases h.value_at k _ hValuePlace with hAt | ⟨c, w, hC, hReplaced, hAt⟩
  · exact Or.inl (hAt.trans hValue)
  · rw [hColumn] at hC
    cases hC
    exact Or.inr ⟨w, hReplaced, hAt⟩

theorem Paired.mono (h : Paired s columns values columnPlaces valuePlaces replaced)
    {replaced' : Nat → Value → Value → Prop}
    (hMono : ∀ k c w, replaced k c w → replaced' k c w) :
    Paired s columns values columnPlaces valuePlaces replaced' := by
  refine ⟨h.columnPlaces_length, h.valuePlaces_length, h.besides, h.matched, h.column_at, ?_⟩
  intro k p hPlace
  rcases h.value_at k p hPlace with hAt | ⟨c, w, hColumn, hReplaced, hAt⟩
  · exact Or.inl hAt
  · exact Or.inr ⟨c, w, hColumn, hMono k c w hReplaced, hAt⟩

/-! ## Runs -/

/-- A column that was set in a run was set in every longer run. -/
theorem SetAfter.concat {text : Rendering} {fresh : Insert} {calls : List Call} {k : Nat}
    {column value : Value} (h : SetAfter text fresh calls k column value) (call : Call) :
    SetAfter text fresh (calls ++ [call]) k column value := by
  obtain ⟨before, rest, rfl, hAccepted, hPassed⟩ := h
  exact ⟨before, rest ++ [call], by rw [List.append_assoc, List.cons_append], hAccepted, hPassed⟩

/-- What holds of the statement that a run of calls with literal fragments leaves. -/
structure PairedAfter (text : Rendering) (fresh : Insert) (calls : List Call) (s : Insert) :
    Prop where
  paired : Paired s (columnsPassed text fresh calls) (valuesPassed text fresh calls)
    (Insert.columnPlaces text fresh calls) (Insert.valuePlaces text fresh calls)
    (SetAfter text fresh calls)
  literal : s.Literal
  table : s.table = fresh.table

/-- Nothing was passed to a new statement. -/
theorem PairedAfter.start (text : Rendering) {table : Value} (hTable : table.isText = true) :
    PairedAfter text { table := table } [] { table := table } := by
  refine ⟨⟨rfl, rfl, ⟨0, rfl, rfl, ?_, ?_⟩, ?_, ?_, ?_⟩, Literal.start hTable, rfl⟩
  · intro k _ hLt
    cases hLt
  · intro k _ hLt
    cases hLt
  · intro k hLt
    cases hLt
  · intro k p hPlace
    cases hPlace
  · intro k p hPlace
    cases hPlace

/-- One more call keeps what is passed and where it stands in step. -/
theorem PairedAfter.concat {text : Rendering} {fresh : Insert} {done : List Call}
    (h : PairedAfter text fresh done (Run.after (apply text) fresh done)) {call : Call}
    (hCall : call.isLiteral = true) :
    PairedAfter text fresh (done ++ [call])
      (apply text (Run.after (apply text) fresh done) call).state := by
  refine ⟨?_, h.literal.apply hCall, (table_apply ..).trans h.table⟩
  rw [columnsPassed, valuesPassed, Insert.columnPlaces, Insert.valuePlaces, Run.noted_concat,
    Run.noted_concat, Run.noted_concat, Run.noted_concat]
  rcases apply_cases text (Run.after (apply text) fresh done) call with
    hAppended | ⟨column, value, rfl, hAligned, hAssigned⟩
  · -- columns that were set before were set in the longer run too
    rw [hAppended]
    exact (h.paired.append _ _).mono fun _ _ _ hSet => hSet.concat call
  · rw [(added_assign ..).1, (added_assign ..).2, hAssigned]
    simp only [List.length_nil, List.range'_zero, List.append_nil]
    rw [Call.isLiteral, Bool.and_eq_true] at hCall
    refine (h.paired.assign hAligned h.literal.columns hCall.1).mono ?_
    rintro k c w (hSet | ⟨hPassed, rfl, rfl⟩)
    · exact hSet.concat _
    · -- the call that was made last is the one that replaced the value
      exact ⟨done, [], rfl, (isAccepted_assign ..).mpr hAligned, hPassed⟩

/-- The invariant holds after every run of calls with literal fragments. -/
theorem paired_after_run (text : Rendering) {table : Value} {fresh : Insert}
    (hFresh : create table = .ok fresh) {calls : List Call}
    (hCalls : ∀ call ∈ calls, call.isLiteral = true) :
    PairedAfter text fresh calls (Run.after (apply text) fresh calls) := by
  obtain ⟨rfl, hText⟩ := create_eq hFresh
  refine @Run.induction_on_last _ _ (apply text) { table := table }
    (PairedAfter text { table := table }) calls (PairedAfter.start text hText) ?_
  intro done call hMem h
  exact h.concat (hCalls call hMem)

/-! ## What the invariant says -/

/-- The columns that a run passed in bulk less the values that it passed. -/
def passedDifference (text : Rendering) (fresh : Insert) (calls : List Call) : Int :=
  (columnsPassed text fresh calls).length - (valuesPassed text fresh calls).length

/-- What can be told of the statement that a run leaves without looking at the order of its
calls. -/
structure PairsUp (store : Store) (table : Value) (fresh : Insert) (calls : List Call)
    (s : Insert) : Prop where
  /-- The lists differ by what was passed in bulk. -/
  difference : (s.columns.length : Int) - s.values.length =
    passedDifference store.text fresh calls
  /-- Setting a column is accepted exactly if there is no difference; if not, nothing changes. -/
  accepted (column value : String) :
    (Run.isAccepted (apply store.text) s (.assign (.text column) (.text value)) = true ↔
      passedDifference store.text fresh calls = 0) ∧
    (passedDifference store.text fresh calls ≠ 0 →
      (s.apply store.text (.assign (.text column) (.text value))).state = s)
  /-- A column that is there gets its value at its first place, and nothing else changes. -/
  replaced (column value : String) : passedDifference store.text fresh calls = 0 →
    .text column ∈ s.columns →
    ∃ p : Nat, s.columns[p]? = some (.text column) ∧
      (∀ q : Nat, q < p → s.columns[q]? ≠ some (.text column)) ∧
      (s.apply store.text (.assign (.text column) (.text value))).state =
        { s with values := s.values.set p (.text value) }
  /-- A column that is not there goes to the end with its value. -/
  appended (column value : String) : passedDifference store.text fresh calls = 0 →
    .text column ∉ s.columns →
    (s.apply store.text (.assign (.text column) (.text value))).state =
      { s with columns := s.columns ++ [.text column], values := s.values ++ [.text value] }
  /-- The `k`-th column and the `k`-th value that were passed stand at one place, unless the value
  was replaced later by setting that column. -/
  together (k : Nat) (column value : Value) :
    (columnsPassed store.text fresh calls)[k]? = some column →
    (valuesPassed store.text fresh calls)[k]? = some value →
    ∃ p : Nat, (Insert.columnPlaces store.text fresh calls)[k]? = some p ∧
      (Insert.valuePlaces store.text fresh calls)[k]? = some p ∧
      s.columns[p]? = some column ∧
      (s.values[p]? = some value ∨
        ∃ other, SetAfter store.text fresh calls k column other ∧ s.values[p]? = some other)
  /-- The text is built exactly if there is no difference and there is a column, and lists both. -/
  built (sql : String) :
    (s.apply store.text .build).reply.result = .ok (.built sql) ↔
      passedDifference store.text fresh calls = 0 ∧ s.columns ≠ [] ∧
        sql = "INSERT INTO " ++ table.plain .blank ++ " (" ++
          ", ".intercalate (s.columns.map Value.literal) ++ ") VALUES (" ++
          ", ".intercalate (s.values.map Value.literal) ++ ");"

/-- The lists of a statement differ by what was passed to it in bulk. -/
theorem PairedAfter.difference {text : Rendering} {fresh s : Insert} {calls : List Call}
    (h : PairedAfter text fresh calls s) :
    (s.columns.length : Int) - s.values.length = passedDifference text fresh calls := by
  obtain ⟨n, hColumns, hValues, -, -⟩ := h.paired.besides
  rw [passedDifference]
  omega

/-- The lists are equally long exactly if as many columns as values were passed in bulk. -/
theorem PairedAfter.aligned_iff {text : Rendering} {fresh s : Insert} {calls : List Call}
    (h : PairedAfter text fresh calls s) :
    s.columns.length = s.values.length ↔ passedDifference text fresh calls = 0 := by
  have hDifference := h.difference
  omega

/-- A literal column is looked up by its text: the place found is the first one that holds it. -/
theorem columnIndex?_eq_some {columns : List Value} (hColumns : ∀ c ∈ columns, c.isLiteral = true)
    {column : String} (hMem : .text column ∈ columns) :
    ∃ p, columnIndex? (.text column) columns = some p ∧ columns[p]? = some (.text column) ∧
      ∀ q : Nat, q < p → columns[q]? ≠ some (.text column) := by
  have hSome : (columnIndex? (.text column) columns).isSome = true := by
    rw [columnIndex?, List.findIdx?_isSome, List.any_eq_true]
    exact ⟨_, hMem, Value.equal_self_of_isLiteral rfl⟩
  obtain ⟨p, hIndex⟩ := Option.isSome_iff_exists.mp hSome
  obtain ⟨hLt, hFound, hFirst⟩ := List.findIdx?_eq_some_iff_getElem.mp hIndex
  refine ⟨p, hIndex, ?_, ?_⟩
  · rw [List.getElem?_eq_getElem hLt,
      Value.eq_of_equal_literal (hColumns _ (List.getElem_mem hLt)) rfl hFound]
  · intro q hq hAt
    obtain ⟨hLtq, hEq⟩ := List.getElem?_eq_some_iff.mp hAt
    apply hFirst q hq
    rw [hEq]
    exact Value.equal_self_of_isLiteral rfl

theorem columnIndex?_eq_none {columns : List Value} (hColumns : ∀ c ∈ columns, c.isLiteral = true)
    {column : String} (hMem : .text column ∉ columns) :
    columnIndex? (.text column) columns = none := by
  rw [columnIndex?, List.findIdx?_eq_none_iff]
  intro c hc
  rw [Bool.eq_false_iff]
  intro hEqual
  exact hMem (Value.eq_of_equal_literal (hColumns c hc) rfl hEqual ▸ hc)

/-- **A value never gets under the wrong column.** In every run of calls with literal columns and
values, refused calls included, the two lists differ by what was passed in bulk, a column can be set
exactly while they do not, what was passed as the `k`-th stands at one place in both, and the text
is built exactly when there is a column and every column has a value. -/
theorem run_pairs_columns_and_values (store : Store) {table : Value} {fresh : Insert}
    (hFresh : create table = .ok fresh) {calls : List Call}
    (hCalls : ∀ call ∈ calls, call.isLiteral = true) :
    PairsUp store table fresh calls (Run.after (apply store.text) fresh calls) := by
  have h := paired_after_run store.text hFresh hCalls
  have hTable : (Run.after (apply store.text) fresh calls).table = table := by
    rw [h.table, (create_eq hFresh).1]
  -- from here on the invariant is all that is known of the run
  generalize Run.after (apply store.text) fresh calls = s at h hTable
  refine ⟨h.difference, ?_, ?_, ?_, ?_, ?_⟩
  · intro column value
    refine ⟨(isAccepted_assign ..).trans h.aligned_iff, fun hDifference => ?_⟩
    refine state_of_refused fun hAccepted => hDifference ?_
    exact h.aligned_iff.mp ((isAccepted_assign ..).mp hAccepted)
  · -- the column is there
    intro column value hDifference hMem
    obtain ⟨p, hIndex, hAt, hFirst⟩ := columnIndex?_eq_some h.literal.columns hMem
    refine ⟨p, hAt, hFirst, ?_⟩
    rw [state_assign_of_aligned (h.aligned_iff.mpr hDifference), assign, hIndex]
  · -- the column is not there
    intro column value hDifference hMem
    rw [state_assign_of_aligned (h.aligned_iff.mpr hDifference), assign,
      columnIndex?_eq_none h.literal.columns hMem]
  · exact fun k column value hColumn hValue => h.paired.together hColumn hValue
  · intro sql
    have hText : s.literalText = "INSERT INTO " ++ table.plain .blank ++ " (" ++
        ", ".intercalate (s.columns.map Value.literal) ++ ") VALUES (" ++
        ", ".intercalate (s.values.map Value.literal) ++ ");" := by
      rw [← hTable]
      rfl
    rw [← hText, ← h.aligned_iff]
    exact Answer.result_built_eq_ok.trans (render_literal_eq_ok store h.literal)

/-- A run that sets a column between two lists passed in bulk, in which setting is refused twice and
the value of a column that was passed in bulk is replaced. -/
def tasksRun : List Call :=
  [.columns (.list [.text "title", .text "owner"]), .assign (.text "state") (.text "'open'"),
    .values (.tuple [.text "'plan'", .text "4"]), .assign (.text "state") (.text "'open'"),
    .assign (.text "owner") (.text "7"), .values (.list [.text "NULL"]), .columns (.text "due"),
    .assign (.text "title") (.text "'ship'"), .columns (.list [.text "due"])]

theorem pairsUp_tasksRun :
    ∃ fresh s, create (.text "tasks") = .ok fresh ∧
      PairsUp {} (.text "tasks") fresh tasksRun s ∧
      s.columns = [.text "title", .text "owner", .text "state", .text "due"] ∧
      s.values = [.text "'plan'", .text "7", .text "'open'", .text "NULL"] := by
  have hCalls : ∀ call ∈ tasksRun, call.isLiteral = true := by decide
  exact ⟨{ table := .text "tasks" }, _, rfl, run_pairs_columns_and_values {} rfl hCalls, rfl, rfl⟩

end Insert

end SqlCompose
