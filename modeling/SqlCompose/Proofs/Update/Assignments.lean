import Mathlib.Data.List.Induction
import Mathlib.Data.List.Nodup
import SqlCompose.Proofs.Select.History
import SqlCompose.Proofs.Slots

/-!
# SqlCompose — the last value of a column counts, at the place of its first

The assignments of an UPDATE statement may be given one at a time, as the
entries of a table, or as pairs in a row, and a column may be given again in the
same call or in a later one. Whatever the calls are, they supply pairs of a
column and a value, one after the other, and nothing but these pairs matters:

* every column that was ever supplied is assigned once (`Update.firstColumns`),
  and the columns stand in the order in which they were supplied first;
* each has the value that was supplied for it last (`Update.lastValue`).

Main results:

* `Update.insertEntries_assigned` — writing pairs into a table of assignments
  leaves what all pairs add up to.
* `Update.after_eq_ofSupplied` — so does a run, with the last condition.
* `Update.build_writes_last_values` — the text after a run, and that the ways of
  supplying pairs are interchangeable.
-/

namespace SqlCompose

namespace Update

/-! ## What pairs add up to -/

/-- The columns of some pairs, each of them once, in the order in which they come first. -/
def firstColumns (pairs : List (String × String)) : List String := (pairs.map Prod.fst).eraseDups

/-- The value in the last pair with a column. -/
def lastValue (pairs : List (String × String)) (column : String) : String :=
  ((pairs.filter fun pair => pair.1 = column).getLast?.map Prod.snd).getD ""

/-- A pair of texts as an entry of a table. -/
def textEntry (pair : String × String) : Value × Value := (.text pair.1, .text pair.2)

/-- The assignments that pairs add up to. -/
def assigned (pairs : List (String × String)) : List (Value × Value) :=
  (firstColumns pairs).map fun column => textEntry (column, lastValue pairs column)

theorem mem_firstColumns {pairs : List (String × String)} {column : String} :
    column ∈ firstColumns pairs ↔ ∃ value, (column, value) ∈ pairs := by
  simp [firstColumns, List.mem_eraseDups]

/-- A column that is supplied again keeps its place, a new one goes to the end. -/
theorem firstColumns_concat (pairs : List (String × String)) (column value : String) :
    firstColumns (pairs ++ [(column, value)]) =
      if column ∈ firstColumns pairs then firstColumns pairs
      else firstColumns pairs ++ [column] := by
  have hOne : ([column] : List String).eraseDups = [column] := by
    simp [List.eraseDups_cons]
  unfold firstColumns
  rw [List.map_append, List.eraseDups_append]
  by_cases h : column ∈ pairs.map Prod.fst
  · simp [List.mem_eraseDups, h, List.removeAll]
  · simp [List.mem_eraseDups, h, List.removeAll, hOne]

theorem nodup_firstColumns (pairs : List (String × String)) : (firstColumns pairs).Nodup := by
  induction pairs using List.reverseRecOn with
  | nil => exact List.nodup_nil
  | append_singleton pairs pair ih =>
    rw [firstColumns_concat]
    split
    · exact ih
    · rename_i hNew
      rw [← List.concat_eq_append]
      exact List.Nodup.concat hNew ih

/-- The value of a column is that of the pair that was supplied last, if the pair is for it. -/
theorem lastValue_concat (pairs : List (String × String)) (column value other : String) :
    lastValue (pairs ++ [(column, value)]) other =
      if other = column then value else lastValue pairs other := by
  unfold lastValue
  rw [List.filter_append]
  by_cases h : other = column
  · simp [h]
  · have hForeign : ¬ column = other := fun hSame => h hSame.symm
    simp [h, hForeign]

/-- Pairs that come later only add columns behind those that are there. -/
theorem firstColumns_prefix (before rest : List (String × String)) :
    firstColumns before <+: firstColumns (before ++ rest) := by
  rw [firstColumns, firstColumns, List.map_append, List.eraseDups_append]
  exact List.prefix_append ..

/-- A column that is new comes right behind all columns that were supplied before it. -/
theorem firstColumns_prefix_of_new (before rest : List (String × String)) {column : String}
    (value : String) (hNew : column ∉ firstColumns before) :
    firstColumns before ++ [column] <+: firstColumns (before ++ (column, value) :: rest) := by
  have hPrefix := firstColumns_prefix (before ++ [(column, value)]) rest
  rw [firstColumns_concat, if_neg hNew, List.append_assoc, List.singleton_append] at hPrefix
  exact hPrefix

/-- The value of a column is the one in a pair behind which the column is not supplied again. -/
theorem lastValue_eq (before rest : List (String × String)) {column : String} (value : String)
    (hLast : column ∉ firstColumns rest) :
    lastValue (before ++ (column, value) :: rest) column = value := by
  have hRest : (rest.filter fun pair => pair.1 = column) = [] := by
    rw [List.filter_eq_nil_iff]
    intro pair hPair hSame
    refine hLast (mem_firstColumns.mpr ⟨pair.2, ?_⟩)
    rw [← of_decide_eq_true hSame]
    exact hPair
  have hHere : decide ((column, value).1 = column) = true := decide_eq_true rfl
  rw [lastValue, List.filter_append, List.filter_cons, if_pos hHere, hRest, List.getLast?_concat]
  rfl

/-- Writing a text under a text: the entry that is there gets the value, or there is one more. -/
theorem insertEntry_texts (column value : String) (f : String → String) {columns : List String}
    (hNodup : columns.Nodup) :
    Value.insertEntry (.text column) (.text value) (columns.map fun c => textEntry (c, f c)) =
      (if column ∈ columns then columns else columns ++ [column]).map fun c =>
        textEntry (c, if c = column then value else f c) := by
  induction columns with
  | nil => simp [Value.insertEntry, textEntry]
  | cons first rest ih =>
    obtain ⟨hFirst, hRest⟩ := List.nodup_cons.mp hNodup
    rw [List.map_cons, Value.insertEntry, textEntry, Value.equal_text]
    by_cases h : column = first
    · -- the column is this one, so it is none of the others
      have hOthers : ∀ c ∈ rest, ¬ c = column := fun c hc hSame => hFirst (h ▸ hSame ▸ hc)
      rw [if_pos (beq_iff_eq.mpr h), if_pos (h ▸ List.mem_cons_self ..), List.map_cons,
        if_pos h.symm]
      refine congrArg _ (List.map_congr_left fun c hc => ?_)
      rw [if_neg (hOthers c hc)]
    · -- the column is one of the others, or a new one
      have hMem : column ∈ first :: rest ↔ column ∈ rest := by
        rw [List.mem_cons, or_iff_right h]
      have hSplit : (if column ∈ first :: rest then first :: rest else first :: rest ++ [column]) =
          first :: if column ∈ rest then rest else rest ++ [column] := by
        simp only [hMem]
        split <;> rfl
      rw [if_neg (mt beq_iff_eq.mp h), hSplit, List.map_cons, if_neg (Ne.symm h), ← ih hRest]
      rfl

/-- One more pair is written into what the pairs before it add up to. -/
theorem insertEntry_assigned (pairs : List (String × String)) (pair : String × String) :
    Value.insertEntry (.text pair.1) (.text pair.2) (assigned pairs) =
      assigned (pairs ++ [pair]) := by
  rw [assigned, insertEntry_texts pair.1 pair.2 _ (nodup_firstColumns pairs), assigned,
    firstColumns_concat]
  refine List.map_congr_left fun c _ => ?_
  rw [lastValue_concat]

/-- Writing pairs into a table of assignments leaves what all pairs add up to. -/
theorem insertEntries_assigned (pairs more : List (String × String)) :
    Value.insertEntries (more.map textEntry) (assigned pairs) = assigned (pairs ++ more) := by
  induction more generalizing pairs with
  | nil =>
    rw [List.append_nil]
    rfl
  | cons pair rest ih =>
    -- the first of the pairs is the last of those that are there when the rest is written
    have hRest := ih (pairs ++ [pair])
    rw [List.append_assoc, List.singleton_append] at hRest
    rw [← hRest, ← insertEntry_assigned]
    rfl

/-- There are assignments as soon as there are pairs. -/
theorem assigned_eq_nil (pairs : List (String × String)) : assigned pairs = [] ↔ pairs = [] := by
  refine ⟨fun hNone => ?_, fun hNone => by rw [hNone]; rfl⟩
  cases pairs with
  | nil => rfl
  | cons pair rest =>
    have hFirst : pair.1 ∈ firstColumns (pair :: rest) :=
      mem_firstColumns.mpr ⟨pair.2, List.mem_cons_self ..⟩
    rw [List.map_eq_nil_iff.mp hNone] at hFirst
    cases hFirst

/-! ## Ways of supplying pairs -/

/-- An argument stands for entries if going through it yields them, one item for each. -/
def StandsFor (given : Value) (entries : List (Value × Value)) : Prop :=
  ∃ items, assignmentItems given = .ok items ∧ items.map pair? = entries.map some

/-- A dictionary stands for its entries. -/
theorem standsFor_dict (entries : List (Value × Value)) : StandsFor (.dict entries) entries := by
  refine ⟨entries.map fun entry => .tuple [entry.1, entry.2], rfl, ?_⟩
  rw [List.map_map]
  rfl

/-- A list of pairs stands for them. -/
theorem standsFor_list (entries : List (Value × Value)) :
    StandsFor (.list (entries.map fun entry => .tuple [entry.1, entry.2])) entries := by
  refine ⟨entries.map fun entry => .tuple [entry.1, entry.2], rfl, ?_⟩
  rw [List.map_map]
  rfl

theorem checkColumn_of_keyable {column : Value} (h : Value.unkeyable? column = none) :
    checkColumn column = .ok () := by
  rw [checkColumn, h]

/-- Items that are pairs are all assigned, and nothing is refused. -/
theorem assignEach_of_pairs {items : List Value} {entries : List (Value × Value)}
    (hPairs : items.map pair? = entries.map some)
    (hKeyable : ∀ entry ∈ entries, Value.unkeyable? entry.1 = none) (s : Update) :
    assignEach items s =
      ({ s with assignments := Value.insertEntries entries s.assignments }, ⟨.ok (), []⟩) := by
  induction items generalizing entries s with
  | nil =>
    have hNone : entries = [] := List.map_eq_nil_iff.mp hPairs.symm
    rw [hNone]
    rfl
  | cons item rest ih =>
    cases entries with
    | nil => cases hPairs
    | cons entry others =>
      -- the item is the first entry, and passes both checks
      obtain ⟨hItem, hRest⟩ := List.cons.inj hPairs
      have hEntry := checkColumn_of_keyable (hKeyable entry (List.mem_cons_self ..))
      have hCheck : checkItem item = .ok entry := by
        rw [checkItem, checkPair, hItem]
        show (checkColumn entry.1).bind (fun _ => .ok entry) = _
        rw [hEntry]
        rfl
      rw [assignEach_cons, hCheck]
      exact ih hRest (fun other hOther => hKeyable other (List.mem_cons_of_mem _ hOther)) _

/-- An argument that stands for entries has them written into the table, one after the other. -/
theorem assignAll_of_standsFor {given : Value} {entries : List (Value × Value)}
    (hGiven : StandsFor given entries)
    (hKeyable : ∀ entry ∈ entries, Value.unkeyable? entry.1 = none) (s : Update) :
    assignAll given s =
      ({ s with assignments := Value.insertEntries entries s.assignments }, ⟨.ok (), []⟩) := by
  obtain ⟨items, hItems, hPairs⟩ := hGiven
  rw [assignAll, Work.require_bind, hItems]
  exact assignEach_of_pairs hPairs hKeyable s

/-- So have single assignments, one call for each. -/
theorem after_assigns (text : Rendering) {entries : List (Value × Value)}
    (hKeyable : ∀ entry ∈ entries, Value.unkeyable? entry.1 = none) (s : Update) :
    Run.after (apply text) s (entries.map fun entry => .assign entry.1 entry.2) =
      { s with assignments := Value.insertEntries entries s.assignments } := by
  induction entries generalizing s with
  | nil => rfl
  | cons entry rest ih =>
    have hEntry := checkColumn_of_keyable (hKeyable entry (List.mem_cons_self ..))
    have hStep : (s.apply text (.assign entry.1 entry.2)).state = s.withAssignment entry := by
      rw [(apply_assign text s entry.1 entry.2).1, hEntry]
      rfl
    rw [List.map_cons, Run.after_cons, hStep,
      ih fun other hOther => hKeyable other (List.mem_cons_of_mem _ hOther)]
    rfl

/-- Items behind others are assigned when the others were, unless one of these was refused. -/
theorem assignEach_append (first second : List Value) :
    assignEach (first ++ second) = assignEach first >>= fun _ => assignEach second := by
  funext s
  induction first generalizing s with
  | nil => rfl
  | cons item rest ih =>
    -- the first item is assigned or refused by the same check on either side
    show _ = Work.andThen (assignEach (item :: rest)) (fun _ => assignEach second) s
    rw [List.cons_append, assignEach_cons, Work.andThen, assignEach_cons]
    cases checkItem item with
    | error fault => rfl
    | ok pair => exact ih (s.withAssignment pair)

/-- Several assignments may be split over two calls, the second of which is made if the first was
not refused. -/
theorem assignAll_append {given first second : Value} {a b : List Value}
    (hFirst : assignmentItems first = .ok a) (hSecond : assignmentItems second = .ok b)
    (hGiven : assignmentItems given = .ok (a ++ b)) :
    assignAll given = assignAll first >>= fun _ => assignAll second := by
  rw [assignAll, assignAll, assignAll, hFirst, hSecond, hGiven]
  exact assignEach_append a b

/-- The same for the statement that two calls leave. -/
theorem state_columns_append (text : Rendering) {given first second : Value} {a b : List Value}
    (hFirst : assignmentItems first = .ok a) (hSecond : assignmentItems second = .ok b)
    (hGiven : assignmentItems given = .ok (a ++ b)) {s : Update}
    (hAccepted : Run.isAccepted (apply text) s (.columns first) = true) :
    (s.apply text (.columns given)).state =
      Run.after (apply text) s [.columns first, .columns second] := by
  -- the first call is done to the end, so the second starts from what it leaves in both cases
  rw [Run.isAccepted, apply, Answer.result_worked] at hAccepted
  rw [state_columns, assignAll_append hFirst hSecond hGiven]
  show (Work.andThen (assignAll first) (fun _ => assignAll second) s).1 =
    (assignAll second (assignAll first s).1).1
  unfold Work.andThen
  cases hResult : (assignAll first s).2.result with
  | ok done => rfl
  | error fault =>
    rw [hResult] at hAccepted
    cases hAccepted

/-! ## Runs -/

/-- A column and a value that are texts, given as one item. -/
def literalPair? (item : Value) : Option (String × String) :=
  match pair? item with
  | some (.text column, .text value) => some (column, value)
  | _ => none

/-- The pairs that a call supplies, if it hands over nothing but texts for columns and values, or a
condition that is literal or null. -/
def supplied? : Call → Option (List (String × String))
  | .assign column value => (literalPair? (.tuple [column, value])).map fun pair => [pair]
  | .columns given =>
    match assignmentItems given with
    | .ok items => items.mapM literalPair?
    | .error _ => none
  | .condition body => if body.isLiteralOrNull then some [] else none
  | .build => some []
  | _ => none

/-- All pairs that the calls of a run supply, in order. -/
def suppliedBy (calls : List Call) : List (String × String) :=
  calls.flatMap fun call => (supplied? call).getD []

theorem pair?_of_literalPair? {item : Value} {pair : String × String}
    (h : literalPair? item = some pair) : pair? item = some (textEntry pair) := by
  unfold literalPair? at h
  split at h
  · rename_i column value hPair
    cases h
    exact hPair
  · cases h

/-- Items that are pairs of texts are pairs. -/
theorem map_pair?_of_literal {items : List Value} {pairs : List (String × String)}
    (h : items.mapM literalPair? = some pairs) :
    items.map pair? = (pairs.map textEntry).map some := by
  induction items generalizing pairs with
  | nil =>
    cases h
    rfl
  | cons item rest ih =>
    rw [List.mapM_cons, Option.bind_eq_bind, Option.bind_eq_some_iff] at h
    obtain ⟨pair, hPair, hRest⟩ := h
    rw [Option.bind_eq_bind, Option.bind_eq_some_iff] at hRest
    obtain ⟨others, hOthers, hAll⟩ := hRest
    cases hAll
    rw [List.map_cons, pair?_of_literalPair? hPair, ih hOthers]
    rfl

/-- An argument whose items are pairs of texts stands for the pairs that it supplies. -/
theorem standsFor_supplied {given : Value} {pairs : List (String × String)}
    (h : supplied? (.columns given) = some pairs) : StandsFor given (pairs.map textEntry) := by
  unfold supplied? at h
  simp only at h
  split at h
  · rename_i items hItems
    exact ⟨items, hItems, map_pair?_of_literal h⟩
  · cases h

/-- Texts can be assigned to. -/
theorem keyable_textEntry (pairs : List (String × String)) :
    ∀ entry ∈ pairs.map textEntry, Value.unkeyable? entry.1 = none := by
  intro entry hEntry
  obtain ⟨pair, -, rfl⟩ := List.mem_map.mp hEntry
  rfl

/-- The statement that supplied pairs and a condition add up to. -/
def ofSupplied (table : Value) (pairs : List (String × String)) (condition : Value) : Update where
  table := table
  assignments := assigned pairs
  condition := condition

/-- One more call supplies its pairs behind those that are there, and may give another condition. -/
theorem state_apply_ofSupplied (text : Rendering) (table condition : Value)
    (pairs : List (String × String)) {call : Call} {more : List (String × String)}
    (hCall : supplied? call = some more) :
    ((ofSupplied table pairs condition).apply text call).state =
      ofSupplied table (pairs ++ more) ((Select.conditionGiven? call).getD condition) := by
  cases call with
  | assign column value =>
    -- one pair of texts is written into the table
    obtain ⟨pair, hPair, rfl⟩ := Option.map_eq_some_iff.mp hCall
    cases pair?_of_literalPair? hPair
    rw [(apply_assign ..).1]
    show { ofSupplied table pairs condition with
      assignments := Value.insertEntry (.text pair.1) (.text pair.2) (assigned pairs) } = _
    rw [insertEntry_assigned]
    rfl
  | columns given =>
    -- the argument stands for the pairs that it supplies, and all of them are written
    rw [state_columns,
      assignAll_of_standsFor (standsFor_supplied hCall) (keyable_textEntry more)]
    show { ofSupplied table pairs condition with
      assignments := Value.insertEntries (more.map textEntry) (assigned pairs) } = _
    rw [insertEntries_assigned]
    rfl
  | condition body =>
    -- no pair comes with a condition, which takes the place of the one before it
    unfold supplied? at hCall
    simp only at hCall
    split at hCall
    · cases hCall
      rw [(apply_condition ..).1, List.append_nil]
      rfl
    · cases hCall
  | build =>
    cases hCall
    rw [List.append_nil]
    rfl
  | _ => cases hCall

/-- The condition that was given last counts. -/
theorem latest_concat (given? : Call → Option Value) (history : List Call) (call : Call) :
    Select.latest given? (history ++ [call]) =
      (given? call).getD (Select.latest given? history) := by
  rw [Select.latest, Select.latest, List.filterMap_append]
  cases hGiven : given? call with
  | none => simp [hGiven]
  | some v => simp [hGiven]

/-- A run leaves what the pairs that it supplies add up to, and the condition that it gives last. -/
theorem after_eq_ofSupplied (text : Rendering) (table : Value) {calls : List Call}
    (hCalls : ∀ call ∈ calls, (supplied? call).isSome = true) :
    Run.after (apply text) { table := table } calls =
      ofSupplied table (suppliedBy calls) (Select.latest Select.conditionGiven? calls) := by
  refine @Run.induction_on_last _ _ (apply text) { table := table }
    (fun done s => s = ofSupplied table (suppliedBy done)
      (Select.latest Select.conditionGiven? done)) calls rfl ?_
  intro done call hMem h
  obtain ⟨more, hMore⟩ := Option.isSome_iff_exists.mp (hCalls call hMem)
  have hSupplied : suppliedBy (done ++ [call]) = suppliedBy done ++ more := by
    rw [suppliedBy, List.flatMap_append, List.flatMap_singleton, hMore]
    rfl
  rw [h, state_apply_ofSupplied text table _ _ hMore, hSupplied, latest_concat]

/-! ## The text -/

/-- What a run of such calls leaves is written with literal fragments only. -/
theorem literal_ofSupplied {table condition : Value} (hTable : table.isText = true)
    (hCondition : condition.isLiteralOrNull = true) (pairs : List (String × String)) :
    (ofSupplied table pairs condition).Literal where
  table := hTable
  assignments := fun entry hEntry => by
    obtain ⟨column, -, rfl⟩ := List.mem_map.mp hEntry
    exact ⟨rfl, rfl⟩
  condition := hCondition

/-- A statement without an assignment is refused; otherwise every column is written with its last
value, at the place of its first. -/
theorem build_ofSupplied (store : Store) {table condition : Value} (hTable : table.isText = true)
    (hCondition : condition.isLiteralOrNull = true) (pairs : List (String × String)) :
    ((ofSupplied table pairs condition).apply store.text .build).reply.result =
      if pairs = [] then .error (.noAssignments (table.plain .blank))
      else .ok (.built ("UPDATE " ++ table.plain .blank ++ " SET " ++
        ", ".intercalate ((firstColumns pairs).map fun column =>
          column ++ " = " ++ lastValue pairs column) ++
        Clause.optional "WHERE" condition.literal ++ ";")) := by
  have hEmpty : (ofSupplied table pairs condition).assignments = [] ↔ pairs = [] :=
    assigned_eq_nil pairs
  have hTexts : (assigned pairs).map assignmentText =
      (firstColumns pairs).map fun column => column ++ " = " ++ lastValue pairs column := by
    rw [assigned, List.map_map]
    rfl
  rw [apply, Answer.result_built,
    render_literal store (literal_ofSupplied hTable hCondition pairs), ← hTexts]
  simp only [hEmpty]
  split <;> rfl

/-- The condition of a run is that of one of its calls, or there is none. -/
theorem latest_condition_literal {calls : List Call}
    (hCalls : ∀ call ∈ calls, (supplied? call).isSome = true) :
    (Select.latest Select.conditionGiven? calls).isLiteralOrNull = true := by
  refine Select.latest_literal fun call hCall v hGiven => ?_
  have hSome := hCalls call hCall
  cases call with
  | condition body =>
    cases hGiven
    unfold supplied? at hSome
    simp only at hSome
    split at hSome
    · assumption
    · cases hSome
  | _ => cases hGiven

/-- What can be told of the text after a run of calls that supply pairs of texts, and of the ways of
supplying them. -/
structure LastValuesCount (store : Store) (table : Value) (fresh : Update) (calls : List Call) :
    Prop where
  /-- Without any pair there is no text. -/
  refused : suppliedBy calls = [] → ∃ fault,
    ((Run.after (apply store.text) fresh calls).apply store.text .build).reply.result =
      .error fault ∧ fault.errorClass = .statement
  /-- With pairs, every column is written with its last value, at the place of its first. -/
  built : suppliedBy calls ≠ [] →
    ((Run.after (apply store.text) fresh calls).apply store.text .build).reply.result =
      .ok (.built ("UPDATE " ++ table.plain .blank ++ " SET " ++
        ", ".intercalate ((firstColumns (suppliedBy calls)).map fun column =>
          column ++ " = " ++ lastValue (suppliedBy calls) column) ++
        Clause.optional "WHERE" (Select.latest Select.conditionGiven? calls).literal ++ ";"))
  /-- The columns are those that were supplied, each of them once. -/
  once : (firstColumns (suppliedBy calls)).Nodup
  supplied (column : String) :
    column ∈ firstColumns (suppliedBy calls) ↔ ∃ value, (column, value) ∈ suppliedBy calls
  /-- They stand in the order in which they were supplied first. -/
  ordered (before rest : List (String × String)) (column value : String) :
    suppliedBy calls = before ++ (column, value) :: rest → column ∉ firstColumns before →
    firstColumns before ++ [column] <+: firstColumns (suppliedBy calls)
  /-- The value of a column is the one that was supplied last. -/
  latest (before rest : List (String × String)) (column value : String) :
    suppliedBy calls = before ++ (column, value) :: rest → column ∉ firstColumns rest →
    lastValue (suppliedBy calls) column = value
  /-- A dictionary, a list of pairs and whatever else stands for them are assigned like the single
  pairs one by one, whatever the statement holds. -/
  interchangeable (s : Update) (entries : List (Value × Value)) :
    (∀ entry ∈ entries, Value.unkeyable? entry.1 = none) →
    let oneByOne := Run.after (apply store.text) s (entries.map fun entry =>
      .assign entry.1 entry.2)
    (s.apply store.text (.columns (.dict entries))).state = oneByOne ∧
      (s.apply store.text (.columns (.list (entries.map fun entry =>
        .tuple [entry.1, entry.2])))).state = oneByOne ∧
      ∀ given, StandsFor given entries → (s.apply store.text (.columns given)).state = oneByOne
  /-- Items may be split over two calls. -/
  splittable (s : Update) (given first second : Value) (a b : List Value) :
    assignmentItems first = .ok a → assignmentItems second = .ok b →
    assignmentItems given = .ok (a ++ b) →
    assignAll given = (assignAll first >>= fun _ => assignAll second) ∧
      (Run.isAccepted (apply store.text) s (.columns first) = true →
        (s.apply store.text (.columns given)).state =
          Run.after (apply store.text) s [.columns first, .columns second])

/-- A new statement holds nothing yet. -/
theorem create_eq {table : Value} {fresh : Update} (h : create table = .ok fresh) :
    fresh = { table := table } ∧ table.isText = true :=
  Argument.eq_of_map_table h

/-- **The last value of a column counts, at the place of its first.** After every run of single and
several assignments of texts, with any conditions in between, an UPDATE statement without an
assignment is refused, and any other is written with every column once; and it does not matter in
which of the ways the assignments were supplied. -/
theorem build_writes_last_values (store : Store) {table : Value} {fresh : Update}
    (hFresh : create table = .ok fresh) {calls : List Call}
    (hCalls : ∀ call ∈ calls, (supplied? call).isSome = true) :
    LastValuesCount store table fresh calls := by
  obtain ⟨rfl, hText⟩ := create_eq hFresh
  have hBuild := build_ofSupplied store hText (latest_condition_literal hCalls) (suppliedBy calls)
  rw [← after_eq_ofSupplied store.text table hCalls] at hBuild
  refine ⟨fun hNone => ?_, fun hSome => ?_, nodup_firstColumns _, fun column => mem_firstColumns,
    ?_, ?_, ?_, ?_⟩
  · rw [if_pos hNone] at hBuild
    exact ⟨_, hBuild, rfl⟩
  · rw [if_neg hSome] at hBuild
    exact hBuild
  · intro before rest column value hPairs hNew
    rw [hPairs]
    exact firstColumns_prefix_of_new before rest value hNew
  · intro before rest column value hPairs hLast
    rw [hPairs]
    exact lastValue_eq before rest value hLast
  · intro s entries hKeyable oneByOne
    -- all ways of supplying the entries write them into the table one after the other
    have hSame : ∀ given, StandsFor given entries →
        (s.apply store.text (.columns given)).state = oneByOne := by
      intro given hGiven
      rw [state_columns, assignAll_of_standsFor hGiven hKeyable]
      exact (after_assigns store.text hKeyable s).symm
    exact ⟨hSame _ (standsFor_dict entries), hSame _ (standsFor_list entries), hSame⟩
  · intro s given first second a b hFirst hSecond hGiven
    exact ⟨assignAll_append hFirst hSecond hGiven,
      state_columns_append store.text hFirst hSecond hGiven⟩

/-- A run that assigns twice to two columns, in all three ways, and gives three conditions. -/
def pricesRun : List Call :=
  [.assign (.text "net") (.text "1"), .condition (.text "id = 7"),
    .columns (.dict [(.text "gross", .text "2"), (.text "net", .text "3")]), .condition .null,
    .columns (.list [.tuple [.text "vat", .text "4"], .list [.text "gross", .text "5"]]),
    .condition (.text "id = 8")]

theorem lastValuesCount_pricesRun :
    ∃ fresh, create (.text "prices") = .ok fresh ∧
      LastValuesCount {} (.text "prices") fresh pricesRun ∧
      suppliedBy pricesRun =
        [("net", "1"), ("gross", "2"), ("net", "3"), ("vat", "4"), ("gross", "5")] ∧
      ((Run.after (apply (Store.text {})) fresh pricesRun).apply (Store.text {})
        .build).reply.result =
        .ok (.built "UPDATE prices SET net = 3, gross = 5, vat = 4 WHERE id = 8;") := by
  have hCalls : ∀ call ∈ pricesRun, (supplied? call).isSome = true := by decide
  have hFresh : create (.text "prices") = .ok { table := .text "prices" } := rfl
  have hCount := build_writes_last_values {} hFresh hCalls
  have hPairs : suppliedBy pricesRun =
      [("net", "1"), ("gross", "2"), ("net", "3"), ("vat", "4"), ("gross", "5")] := rfl
  have hSome : suppliedBy pricesRun ≠ [] := by
    rw [hPairs]
    decide
  exact ⟨_, hFresh, hCount, hPairs, (hCount.built hSome).trans rfl⟩

end Update

end SqlCompose
