import SqlCompose.Proofs.Failure
import SqlCompose.Proofs.Json.Strict
import SqlCompose.Proofs.Log.Entries

/-!
# SqlCompose — which records get a structured line, and which line is JSON

A record with a text for its message and with fields of any kind need not get a
line, and its line need not be JSON. Both are decided by the parts of the fields
that stand in the line (`Record.fieldParts`), and by nothing else that the record
carries but its time. A field that is named `exception` does not stand in the
line of a record about a problem, so its parts do not count.

* No line is made if a table among the parts has a key that is not simple, or if
  a statement among them has no text. Whatever else occurs is written.
* A line that is made is JSON unless a number among the parts is infinite or no
  number.

The first step is that a line has no other values than those of the record
itself, which are harmless, and those of the fields that are not replaced
(`Record.forall_written`).
-/

namespace SqlCompose

namespace Value

/-! ## Entries under texts -/

/-- The field given last under a name is the only one if names are distinct. -/
theorem lastOf?_eq_lookup? {fields : List (String × Value)} (h : (fields.map Prod.fst).Nodup)
    (name : String) : lastOf? name fields = lookup? (.text name) (keyed fields) := by
  have hEntered : insertEntries (keyed fields) (keyed []) = keyed fields := insertEntries_keyed h
  rw [← hEntered, lookup?_insertEntries]
  exact (Option.or_none).symm

/-- What is found in a table under texts stands in it. -/
theorem mem_of_lookup?_keyed {fields : List (String × Value)} {name : String} {v : Value}
    (h : lookup? (.text name) (keyed fields) = some v) : (name, v) ∈ fields := by
  induction fields with
  | nil => cases h
  | cons field fields ih =>
    rw [keyed, List.map_cons, lookup?_cons] at h
    simp only [equal_text, beq_iff_eq] at h
    split at h
    · rename_i hName
      rw [hName, ← Option.some.inj h]
      exact List.mem_cons_self
    · exact List.mem_cons_of_mem _ (ih h)

/-- Texts are simple keys. -/
theorem hasSimpleKeys_keyed (fields : List (String × Value)) :
    hasSimpleKeys (keyed fields) = true := by
  rw [hasSimpleKeys, keyed, List.all_map, List.all_eq_true]
  exact fun _ _ => rfl

/-- The parts of fields are those of their values. -/
theorem partsOfEntries_keyed (fields : List (String × Value)) :
    partsOfEntries (keyed fields) = fields.flatMap fun field => field.2.parts := by
  induction fields with
  | nil => rfl
  | cons field fields ih =>
    rw [List.flatMap_cons, ← ih]
    rfl

/-! ## Faults of parts -/

/-- Of all values only statements and tables keep from being written, if all that is known of
statements is in a collection. -/
theorem forall_isWritable (store : Store) (parts : List Value) :
    (∀ part ∈ parts, part.isWritable store.text = true) ↔
      (∀ entries, .dict entries ∈ parts → hasSimpleKeys entries = true) ∧
      ∀ ref, .statement ref ∈ parts → ∃ s, (store.build ref).result = .ok s := by
  constructor
  · intro h
    exact ⟨fun entries hPart => h _ hPart, fun ref hPart => Json.isOk_iff.mp (h _ hPart)⟩
  · rintro ⟨hTables, hStatements⟩ part hPart
    cases part with
    | dict entries => exact hTables entries hPart
    | statement ref => exact Json.isOk_iff.mpr (hStatements ref hPart)
    | bytes _ | set _ | iterator _ =>
      exact Json.isOk_iff.mpr ⟨_, store.result_textWithin store.size rfl⟩
    | _ => rfl

/-- Parts are strict exactly if the numbers of binary64 among them are finite. -/
theorem forall_isStrict (parts : List Value) :
    (∀ part ∈ parts, part.isStrict = true) ↔ ∀ x, .float x ∈ parts → x.isFinite = true := by
  constructor
  · exact fun h x hPart => h _ hPart
  · intro h part hPart
    cases part with
    | float x => exact h x hPart
    | _ => rfl

end Value

namespace Record

open Value

/-! ## The fields that stand in a line -/

/-- The fields of a record that its problem does not replace. -/
def keptFields (r : Record) (fields : List (String × Value)) : List (String × Value) :=
  fields.filter fun field => field.1 ≠ "exception" ∨ r.problem = none

/-- The parts of the fields that stand in the line of a record. -/
def fieldParts (r : Record) (fields : List (String × Value)) : List Value :=
  (r.keptFields fields).flatMap fun field => field.2.parts

variable {r : Record} {fields : List (String × Value)}

/-- A field is kept unless the problem takes its place. -/
theorem mem_keptFields {name : String} {v : Value} :
    (name, v) ∈ r.keptFields fields ↔
      (name, v) ∈ fields ∧ (name ≠ "exception" ∨ r.problem = none) := by
  rw [keptFields, List.mem_filter, decide_eq_true_eq]

/-- The problem of a record stands under the name `exception`, and under no other. -/
theorem lastOf?_problemField (r : Record) (name : String) :
    lastOf? name r.problemField =
      if name = "exception" then r.problem.map Value.text else none := by
  rw [problemField]
  cases r.problem with
  | none => exact (ite_self none).symm
  | some report =>
    show (if "exception" = name then some (Value.text report) else none) = _
    exact if_congr eq_comm rfl rfl

/-- What a record says of itself is null, a number or a text. -/
theorem forall_ownFields {p : Value → Prop} (hNull : p .null) (hInt : ∀ n, p (.int n))
    (hText : ∀ s, p (.text s)) (time message : String) :
    ∀ field ∈ r.ownFields time message, p field.2 := by
  cases hFunction : r.function <;> cases hLine : r.line <;>
    simp [ownFields, ownEntries, ownNames, hFunction, hLine, hNull, hInt, hText]

/-- **The values of a line.** All values in the table of a line have a property that null, numbers
and texts have exactly if the values of the fields have it that the problem does not replace. -/
theorem forall_written {p : Value → Prop} (hNull : p .null) (hInt : ∀ n, p (.int n))
    (hText : ∀ s, p (.text s)) (hDistinct : (fields.map Prod.fst).Nodup) {time message : String}
    {written : List (String × Value)} (hNodup : (written.map Prod.fst).Nodup)
    (hWritten : insertEntries (keyed r.problemField)
      (insertEntries (keyed fields) (r.ownEntries time message)) = keyed written) :
    (∀ field ∈ written, p field.2) ↔ ∀ field ∈ r.keptFields fields, p field.2 := by
  -- under each name stands the problem, or else the field, or else what the record has there
  have hLookup : ∀ name, lookup? (.text name) (keyed written) =
      (lastOf? name r.problemField).or ((lookup? (.text name) (keyed fields)).or
        (lookup? (.text name) (r.ownEntries time message))) := by
    intro name
    rw [← hWritten, lookup?_insertEntries, lookup?_insertEntries, lastOf?_eq_lookup? hDistinct]
  constructor
  · rintro h ⟨name, v⟩ hKept
    obtain ⟨hField, hApart⟩ := mem_keptFields.mp hKept
    have hFree : lastOf? name r.problemField = none := by
      rw [lastOf?_problemField]
      rcases hApart with hName | hNone
      · exact if_neg hName
      · rw [hNone]
        exact ite_self none
    have hFound := hLookup name
    rw [hFree, lookup?_keyed hDistinct hField, Option.none_or, Option.some_or] at hFound
    exact h (name, v) (mem_of_lookup?_keyed hFound)
  · rintro h ⟨name, v⟩ hMem
    have hFound := hLookup name
    rw [lookup?_keyed hNodup hMem, eq_comm, lastOf?_problemField] at hFound
    rcases Option.or_eq_some_iff.mp hFound with hProblem | ⟨hNoProblem, hRest⟩
    · -- the report of the problem is a text
      split at hProblem
      · obtain ⟨report, -, rfl⟩ := Option.map_eq_some_iff.mp hProblem
        exact hText report
      · cases hProblem
    rcases Option.or_eq_some_iff.mp hRest with hField | ⟨-, hOwn⟩
    · refine h (name, v) (mem_keptFields.mpr ⟨mem_of_lookup?_keyed hField, ?_⟩)
      by_cases hName : name = "exception"
      · rw [if_pos hName] at hNoProblem
        exact .inr (Option.map_eq_none_iff.mp hNoProblem)
      · exact .inl hName
    · rw [ownEntries_eq] at hOwn
      exact forall_ownFields hNull hInt hText time message _ (mem_of_lookup?_keyed hOwn)

/-- The parts of what stands in a line, up to null, numbers and texts. -/
theorem forall_parts_written {p : Value → Prop} (hNull : p .null) (hInt : ∀ n, p (.int n))
    (hText : ∀ s, p (.text s)) (hDistinct : (fields.map Prod.fst).Nodup) {time message : String}
    {written : List (String × Value)} (hNodup : (written.map Prod.fst).Nodup)
    (hWritten : insertEntries (keyed r.problemField)
      (insertEntries (keyed fields) (r.ownEntries time message)) = keyed written) :
    (∀ part ∈ partsOfEntries (keyed written), p part) ↔ ∀ part ∈ r.fieldParts fields, p part := by
  rw [partsOfEntries_keyed, fieldParts, List.forall_mem_flatMap, List.forall_mem_flatMap]
  -- the only part of such a value is the value itself
  exact forall_written (p := fun v => ∀ part ∈ v.parts, p part)
    (List.forall_mem_singleton.mpr hNull) (fun n => List.forall_mem_singleton.mpr (hInt n))
    (fun s => List.forall_mem_singleton.mpr (hText s)) hDistinct hNodup hWritten

/-! ## Lines -/

/-- The table of a line can be written, and is strict, exactly if the fields in it can and are. -/
structure IsTableOf (r : Record) (fields written : List (String × Value)) : Prop where
  writable (text : Rendering) :
    (∀ part ∈ partsOfEntries (keyed written), part.isWritable text = true) ↔
      ∀ part ∈ r.fieldParts fields, part.isWritable text = true
  strict : (∀ part ∈ partsOfEntries (keyed written), part.isStrict = true) ↔
    ∀ part ∈ r.fieldParts fields, part.isStrict = true

/-- The entries of a record are a table of its own data and its fields. -/
theorem exists_table (hFields : r.fields.getD (.dict []) = .dict (keyed fields))
    (hDistinct : (fields.map Prod.fst).Nodup) (time message : String) :
    ∃ written, r.entries time message = .ok (keyed written) ∧ IsTableOf r fields written := by
  have hOwn : ((r.ownFields time message).map Prod.fst).Nodup := by
    rw [ownFields_names]
    decide
  obtain ⟨entered, hEntered, hEnteredNodup⟩ := exists_insertEntries_keyed fields hOwn
  obtain ⟨written, hWritten, hNodup⟩ := exists_insertEntries_keyed r.problemField hEnteredNodup
  rw [← hEntered, ← ownEntries_eq] at hWritten
  refine ⟨written, (entries_eq hFields _ _).trans (congrArg _ hWritten), fun text => ?_, ?_⟩
  · exact forall_parts_written (p := fun part => part.isWritable text = true) rfl (fun _ => rfl)
      (fun _ => rfl) hDistinct hNodup hWritten
  · exact forall_parts_written (p := fun part => part.isStrict = true) rfl (fun _ => rfl)
      (fun _ => rfl) hDistinct hNodup hWritten

/-- A line is the text of such a table. -/
theorem exists_table_of_line (hFields : r.fields.getD (.dict []) = .dict (keyed fields))
    (hDistinct : (fields.map Prod.fst).Nodup) {text : Rendering} {plate : Nameplate}
    {pattern line : String} (hLine : (r.structuredLine text plate pattern).result = .ok line) :
    ∃ time written, r.timeText pattern = .ok time ∧
      (Json.write text (.dict (keyed written))).result = .ok line ∧
      IsTableOf r fields written := by
  obtain ⟨time, message, entries, hTime, -, hEntries, hWrite⟩ := structuredLine_eq_ok.mp hLine
  obtain ⟨written, hWritten, hTable⟩ := exists_table hFields hDistinct time message
  obtain rfl := Except.ok.inj (hWritten.symm.trans hEntries)
  exact ⟨time, written, hTime, hWrite, hTable⟩

/-- **Which records get a structured line, and which line is JSON.** A record whose message is a
text without arguments, and whose fields are a table under texts, gets a line exactly if its time
can be written, every table in its fields has simple keys, and every statement in its fields has a
text. The line is a table in the strict grammar exactly if every number of binary64 in its fields is
finite. -/
theorem structuredLine_by_parts (store : Store) (pattern : String)
    (hMessage : r.message.isText = true) (hArgs : r.args = [])
    (hFields : r.fields.getD (.dict []) = .dict (keyed fields))
    (hDistinct : (fields.map Prod.fst).Nodup) :
    ((∃ line, (r.structuredLine store.text store.nameplate pattern).result = .ok line) ↔
      (∃ time, r.timeText pattern = .ok time) ∧
      (∀ entries, .dict entries ∈ r.fieldParts fields → hasSimpleKeys entries = true) ∧
      ∀ ref, .statement ref ∈ r.fieldParts fields → ∃ s, (store.build ref).result = .ok s) ∧
    ∀ line, (r.structuredLine store.text store.nameplate pattern).result = .ok line →
      ((∃ members, Json.read? line = some (.dict members)) ↔
        ∀ x, .float x ∈ r.fieldParts fields → x.isFinite = true) := by
  have hText : (r.messageText store.text store.nameplate).result =
      .ok (r.message.plain .blank) := by
    rw [messageText, hArgs, Rendering.plain_of_isText _ hMessage, store.text_of_isText hMessage]
    rfl
  rw [← forall_isWritable, ← forall_isStrict]
  refine ⟨⟨?_, ?_⟩, ?_⟩
  · rintro ⟨line, hLine⟩
    obtain ⟨time, written, hTime, hWrite, hTable⟩ := exists_table_of_line hFields hDistinct hLine
    have hAll := (Json.exists_write store.text _).mp ⟨line, hWrite⟩
    exact ⟨⟨time, hTime⟩, (hTable.writable _).mp (List.forall_mem_cons.mp hAll).2⟩
  · rintro ⟨⟨time, hTime⟩, hAll⟩
    obtain ⟨written, hWritten, hTable⟩ :=
      exists_table hFields hDistinct time (r.message.plain .blank)
    -- the names of fields are texts, so the table itself has simple keys
    have hWritable : ∀ part ∈ (Value.dict (keyed written)).parts,
        part.isWritable store.text = true :=
      List.forall_mem_cons.mpr ⟨hasSimpleKeys_keyed written, (hTable.writable _).mpr hAll⟩
    obtain ⟨line, hWrite⟩ := (Json.exists_write store.text _).mpr hWritable
    exact ⟨line, structuredLine_eq_ok.mpr ⟨time, _, _, hTime, hText, hWritten, hWrite⟩⟩
  · intro line hLine
    obtain ⟨_, written, -, hWrite, hTable⟩ := exists_table_of_line hFields hDistinct hLine
    exact (Json.read?_table hWrite).trans hTable.strict

/-- A DELETE statement, and an INSERT statement that has no column and so no text. -/
def reportedStore : Store where
  entries :=
    [{ label := "old", className := "DeleteBuilder", isOpen := false,
       content := .delete { table := .text "t" } },
     { label := "rows", className := "InsertBuilder", isOpen := false,
       content := .insert { table := .text "t" } }]

def oneAndAHalf : Binary64 := ⟨0x3FF8000000000000⟩

def notANumber : Binary64 := ⟨0x7FF8000000000000⟩

/-- Fields of many forms, of which the last does not stand in the line of a record about a
problem. -/
def reportedFields : List (String × Value) :=
  [("cells", .list [.tuple [.bytes [0x61], .set [.int 1]], .float oneAndAHalf]),
   ("level", .dict [(.null, .join .left), (.bool true, .statement 0)]),
   ("exception", .list [.float notANumber, .statement 1])]

/-- A record with fields, at the start of 1970. -/
def reportOf (fields : List (String × Value)) (problem : Option String) : Record :=
  { ofEvent (.withFields "fluentsql.app" ⟨20, "INFO"⟩ (.text "report") (keyed fields)) 0 with
    problem := problem }

theorem reportedLine_by_parts :
    ∃ line members,
      ((reportOf reportedFields (some "ValueError: boom")).structuredLine reportedStore.text
        reportedStore.nameplate "").result = .ok line ∧
      Json.read? line = some (.dict members) := by
  have hFields : (reportOf reportedFields (some "ValueError: boom")).fields.getD (.dict []) =
      .dict (keyed reportedFields) := rfl
  obtain ⟨hLine, hStrict⟩ :=
    structuredLine_by_parts reportedStore "" rfl rfl hFields (by decide)
  -- the last field is replaced by the problem, so its parts are not among these
  have hParts : (reportOf reportedFields (some "ValueError: boom")).fieldParts reportedFields =
      [.list [.tuple [.bytes [0x61], .set [.int 1]], .float oneAndAHalf],
       .tuple [.bytes [0x61], .set [.int 1]], .bytes [0x61], .set [.int 1], .float oneAndAHalf,
       .dict [(.null, .join .left), (.bool true, .statement 0)], .join .left, .statement 0] := rfl
  simp only [hParts, List.mem_cons, List.not_mem_nil, reduceCtorEq, false_or, or_false,
    Value.dict.injEq, Value.statement.injEq, Value.float.injEq, forall_eq, or_self] at hLine hStrict
  obtain ⟨line, hWritten⟩ := hLine.mpr ⟨⟨_, timeText_start rfl⟩, rfl, _, rfl⟩
  obtain ⟨members, hRead⟩ := (hStrict line hWritten).mpr (by decide)
  exact ⟨line, members, hWritten, hRead⟩

/-- Three records with a field each: with a key that is not simple and with a statement that has no
text there is no line, and with what is no number the line is not JSON. -/
theorem lines_of_faulty_reports :
    let written (v : Value) := ((reportOf [("cells", v)] none).structuredLine reportedStore.text
      reportedStore.nameplate "").result
    written (.dict [(.bytes [0x61], .int 1)]) = .error (.notFieldKey (.bytes [0x61])) ∧
    written (.statement 1) = .error (.noColumns "t") ∧
    ∃ line, written (.float notANumber) = .ok line ∧
      ¬ ∃ members, Json.read? line = some (.dict members) := by
  have hTime (v : Value) := timeText_start (r := reportOf [("cells", v)] none) rfl
  refine ⟨?_, ?_, ?_⟩
  · simp only [structuredLine, hTime]
    rfl
  · simp only [structuredLine, hTime]
    rfl
  · obtain ⟨line, hLine⟩ : ∃ line, ((reportOf [("cells", .float notANumber)] none).structuredLine
        reportedStore.text reportedStore.nameplate "").result = .ok line :=
      ⟨_, structuredLine_eq_ok.mpr ⟨_, _, _, hTime _, rfl, rfl, rfl⟩⟩
    refine ⟨line, hLine, fun hRead => ?_⟩
    have hFields : (reportOf [("cells", .float notANumber)] none).fields.getD (.dict []) =
        .dict (keyed [("cells", .float notANumber)]) := rfl
    obtain ⟨_, written, -, hWrite, hTable⟩ := exists_table_of_line hFields (by decide) hLine
    have hFinite := hTable.strict.mp ((Json.read?_table hWrite).mp hRead) (.float notANumber)
      (List.mem_singleton_self _)
    exact absurd hFinite (by decide)

end Record

end SqlCompose
