import SqlCompose.Proofs.Json.Floats
import SqlCompose.Proofs.Json.Roundtrip

/-!
# SqlCompose — what can be written as JSON, and what is JSON

What is written for a value is put together from its parts: the elements of rows
and the values of tables, however deep they are nested (`Value.parts`). Two
things are asked of the parts, and neither depends on where a part stands:

* A value is written exactly if every table in it has simple keys, and every part
  that JSON has no form for has a plain form (`Json.exists_write`).
* What is written is read exactly if every number in it is finite
  (`Json.isRead_write`). An infinity and what is no number are written as bare
  words. A reader that comes to such a word, behind however many good parts,
  refuses the whole text.

The keys of tables are written in quotes, whatever they are, and so have no part
in the second question.
-/

namespace SqlCompose

/-! ## Parts -/

namespace Value

mutual

/-- The value itself, and the parts of its elements and entries. -/
def parts : Value → List Value
  | .list items => .list items :: partsOfAll items
  | .tuple items => .tuple items :: partsOfAll items
  | .dict entries => .dict entries :: partsOfEntries entries
  | v => [v]

def partsOfAll : List Value → List Value
  | [] => []
  | v :: rest => parts v ++ partsOfAll rest

def partsOfEntries : List (Value × Value) → List Value
  | [] => []
  | (_, v) :: rest => parts v ++ partsOfEntries rest

end

/-- The keys of a table are simple: texts, members of the closed sets, numbers of whatever type of
integer, truth values or null. -/
def hasSimpleKeys (entries : List (Value × Value)) : Bool :=
  entries.all fun entry => (Json.key entry.1).isOk

/-- Nothing in the part itself keeps it from being written. -/
def isWritable (text : Rendering) : Value → Bool
  | .null | .bool _ | .int _ | .float _ | .text _ | .join _ | .order _ | .object _ | .list _
  | .tuple _ => true
  | .dict entries => hasSimpleKeys entries
  | v => (text v).result.isOk

/-- If the part is a number of binary64, it is finite. -/
def isStrict : Value → Bool
  | .float x => x.isFinite
  | _ => true

end Value

namespace Json

/-! ## What can be written -/

/-- A result that is put into a form is there exactly if it is there without the form. -/
theorem exists_bind_pure {α β : Type} (x : Logged α) (f : α → β) :
    (∃ b, (x >>= fun a => pure (f a)).result = .ok b) ↔ ∃ a, x.result = .ok a := by
  simp only [Logged.result_bind_pure_eq_ok]
  constructor
  · rintro ⟨_, a, hx, -⟩
    exact ⟨a, hx⟩
  · rintro ⟨a, hx⟩
    exact ⟨f a, a, hx, rfl⟩

theorem isOk_iff {α : Type} {result : Except Fault α} :
    result.isOk = true ↔ ∃ a, result = .ok a := by
  cases result with
  | ok a => exact ⟨fun _ => ⟨a, rfl⟩, fun _ => rfl⟩
  | error fault => exact ⟨nofun, nofun⟩

mutual

/-- **A value is written exactly if all its parts can be.** -/
theorem exists_write (text : Rendering) : ∀ v : Value,
    (∃ s, (write text v).result = .ok s) ↔ ∀ part ∈ v.parts, part.isWritable text = true
  | .null | .bool _ | .int _ | .float _ | .text _ | .join _ | .order _ | .object _ =>
    ⟨fun _ _ hPart => List.mem_singleton.mp hPart ▸ rfl, fun _ => ⟨_, rfl⟩⟩
  | .list items | .tuple items => by
    rw [write, exists_bind_pure, exists_writeAll text items, Value.parts, List.forall_mem_cons]
    exact (and_iff_right rfl).symm
  | .dict entries => by
    rw [write, exists_bind_pure, exists_writeEntries text entries, Value.parts,
      List.forall_mem_cons]
    rfl
  | .bytes _ | .set _ | .iterator _ | .statement _ => by
    rw [Value.parts, List.forall_mem_singleton, Value.isWritable, isOk_iff]
    · exact exists_bind_pure _ _
    all_goals nofun

/-- A row can be written exactly if each of its parts can. -/
theorem exists_writeAll (text : Rendering) : ∀ values : List Value,
    (∃ parts, (writeAll text values).result = .ok parts) ↔
      ∀ part ∈ Value.partsOfAll values, part.isWritable text = true
  | [] => ⟨fun _ _ hPart => absurd hPart List.not_mem_nil, fun _ => ⟨[], rfl⟩⟩
  | v :: rest => by
    rw [Value.partsOfAll, List.forall_mem_append, ← exists_write text v,
      ← exists_writeAll text rest]
    simp only [writeAll_cons_eq_ok]
    constructor
    · rintro ⟨_, part, parts, hPart, hParts, -⟩
      exact ⟨⟨part, hPart⟩, parts, hParts⟩
    · rintro ⟨⟨part, hPart⟩, parts, hParts⟩
      exact ⟨_, part, parts, hPart, hParts, rfl⟩

/-- A table can be written exactly if its keys are simple and each of its parts can be written. -/
theorem exists_writeEntries (text : Rendering) : ∀ entries : List (Value × Value),
    (∃ parts, (writeEntries text entries).result = .ok parts) ↔
      Value.hasSimpleKeys entries = true ∧
        ∀ part ∈ Value.partsOfEntries entries, part.isWritable text = true
  | [] => ⟨fun _ => ⟨rfl, fun _ hPart => absurd hPart List.not_mem_nil⟩, fun _ => ⟨[], rfl⟩⟩
  | (name, v) :: rest => by
    have hRest := exists_writeEntries text rest
    rw [Value.hasSimpleKeys] at hRest
    rw [Value.partsOfEntries, List.forall_mem_append, ← exists_write text v, Value.hasSimpleKeys,
      List.all_cons, Bool.and_eq_true, isOk_iff]
    simp only [writeEntries_cons_eq_ok]
    constructor
    · rintro ⟨_, key, part, parts, hKey, hPart, hParts, -⟩
      obtain ⟨hKeys, hAll⟩ := hRest.mp ⟨parts, hParts⟩
      exact ⟨⟨⟨key, hKey⟩, hKeys⟩, ⟨part, hPart⟩, hAll⟩
    · rintro ⟨⟨⟨key, hKey⟩, hKeys⟩, ⟨part, hPart⟩, hAll⟩
      obtain ⟨parts, hParts⟩ := hRest.mpr ⟨hKeys, hAll⟩
      exact ⟨_, key, part, parts, hKey, hPart, hParts, rfl⟩

end

/-! ## What is refused -/

/-- A text that begins like a value, and that is read as none wherever it stands. -/
structure IsNoText (cs : List Char) : Prop where
  opens : Opens cs
  refused : ∀ steps rest, 2 * cs.length ≤ steps + 1 → endsNumber rest = true →
    readValue? steps (cs ++ rest) = none

/-- A bare word for an infinity or for no number. -/
theorem isNoText_number {x : Binary64} (h : x.isFinite = false) : IsNoText (number x).toList := by
  -- a reader decides by the first letter of a word, and these begin no atom of the grammar
  have hBare : ∀ c cs, isBlank c = false → (c ≠ '[' ∧ c ≠ ']' ∧ c ≠ '\x7b' ∧ c ≠ '\x7d') →
      (∀ rest, readAtom? (c :: cs ++ rest) = none) → IsNoText (c :: cs) := by
    intro c cs hBlank hBrackets hAtom
    have hOpens : Opens (c :: cs) := ⟨c, cs, rfl, hBlank, hBrackets.2.1, hBrackets.2.2.2⟩
    exact ⟨hOpens, fun steps rest hSteps _ =>
      (readValue?_atom hBlank hBrackets cs hSteps rest).trans (hAtom rest)⟩
  have hWords : number x = "NaN" ∨ number x = "Infinity" ∨ number x = "-Infinity" := by
    rw [Binary64.isFinite_eq, Bool.and_eq_false_iff, Bool.not_eq_false', Bool.not_eq_false'] at h
    unfold number
    split
    · exact .inl rfl
    · rename_i hNumber
      rw [if_pos (h.resolve_left hNumber)]
      split
      · exact .inr (.inr rfl)
      · exact .inr (.inl rfl)
  rcases hWords with hWord | hWord | hWord
  all_goals
    rw [hWord]
    exact hBare _ _ (by decide) (by decide) fun _ => rfl

/-- The elements of a row as they are read: all of them, or those in front of one that is
refused. -/
inductive RowIsRead : Bool → List String → Prop
  | nil : RowIsRead true []
  | good {strict : Bool} {v : Value} {part : String} {parts : List String} :
    IsTextOf v part.toList → RowIsRead strict parts → RowIsRead strict (part :: parts)
  | bad {part : String} {parts : List String} :
    IsNoText part.toList → RowIsRead false (part :: parts)

/-- The members of a table as they are read. -/
inductive TableIsRead : Bool → List String → Prop
  | nil : TableIsRead true []
  | good {strict : Bool} {name : String} {v : Value} {written : String} {parts : List String} :
    IsTextOf v written.toList → TableIsRead strict parts →
    TableIsRead strict ((string name ++ ": " ++ written) :: parts)
  | bad {name written : String} {parts : List String} :
    IsNoText written.toList → TableIsRead false ((string name ++ ": " ++ written) :: parts)

/-- A value as it is read. -/
inductive IsRead : Bool → List Char → Prop
  | text {v : Value} {cs : List Char} : IsTextOf v cs → IsRead true cs
  | refused {cs : List Char} : IsNoText cs → IsRead false cs

theorem RowIsRead.cons {a b : Bool} {part : String} {parts : List String}
    (h : IsRead a part.toList) (hRest : RowIsRead b parts) :
    RowIsRead (a && b) (part :: parts) := by
  cases h with
  | text hText => exact .good hText hRest
  | refused hRefused => exact .bad hRefused

theorem TableIsRead.cons {a b : Bool} (name : String) {written : String} {parts : List String}
    (h : IsRead a written.toList) (hRest : TableIsRead b parts) :
    TableIsRead (a && b) ((string name ++ ": " ++ written) :: parts) := by
  cases h with
  | text hText => exact .good hText hRest
  | refused hRefused => exact .bad hRefused

/-- A strict row is read back as some values. -/
theorem RowIsRead.exists_values {parts : List String} (h : RowIsRead true parts) :
    ∃ values, AreTextsOf values parts := by
  generalize hStrict : true = strict at h
  induction h with
  | nil => exact ⟨[], .nil⟩
  | good hText _ ih =>
    obtain ⟨values, hValues⟩ := ih hStrict
    exact ⟨_, .cons hText hValues⟩
  | bad _ => cases hStrict

/-- A strict table is read back as some entries. -/
theorem TableIsRead.exists_entries {parts : List String} (h : TableIsRead true parts) :
    ∃ entries, AreEntriesOf entries parts := by
  generalize hStrict : true = strict at h
  induction h with
  | nil => exact ⟨[], .nil⟩
  | @good _ name v written _ hText _ ih =>
    obtain ⟨entries, hEntries⟩ := ih hStrict
    exact ⟨(.text name, v) :: entries, .cons ⟨name, written, rfl, rfl, hText⟩ hEntries⟩
  | bad _ => cases hStrict

/-- The reader of a row stops at the element that is refused. -/
theorem readItems?_refused {parts : List String} (h : RowIsRead false parts) (steps : Nat)
    (rest : List Char) (hSteps : 2 * (listed parts).length ≤ steps) :
    readItems? steps (listed parts ++ ']' :: rest) = none := by
  generalize hStrict : false = strict at h
  induction h generalizing steps with
  | nil => cases hStrict
  | @good strict v part parts hText hRest ih =>
    have hLength := length_pos_of_opens hText.opens
    cases parts with
    | nil =>
      -- all elements would have been read
      rw [← hStrict] at hRest
      cases hRest
    | cons next parts =>
      -- the element is read, and the refused one is behind the comma
      have hMore := hSteps
      rw [listed_cons, List.length_append, List.length_cons, List.length_cons] at hMore
      obtain ⟨steps, rfl⟩ := Nat.exists_eq_add_one_of_ne_zero (show steps ≠ 0 by omega)
      rw [readItems?_comma hText next parts (by omega), ih steps (by omega) hStrict]
      rfl
  | @bad part parts hBad =>
    have hLength := length_pos_of_opens hBad.opens
    cases parts with
    | nil =>
      rw [listed_singleton] at hSteps ⊢
      obtain ⟨steps, rfl⟩ := Nat.exists_eq_add_one_of_ne_zero (show steps ≠ 0 by omega)
      rw [readItems?, hBad.refused steps _ (by omega) rfl]
    | cons next parts =>
      rw [listed_cons, List.length_append] at hSteps
      obtain ⟨steps, rfl⟩ := Nat.exists_eq_add_one_of_ne_zero (show steps ≠ 0 by omega)
      rw [listed_cons, List.append_assoc, List.cons_append, List.cons_append, readItems?,
        hBad.refused steps _ (by omega) rfl]

/-- The reader of a table stops at the value that is refused. -/
theorem readMembers?_refused {parts : List String} (h : TableIsRead false parts) (steps : Nat)
    (rest : List Char) (hSteps : 2 * (listed parts).length ≤ steps) :
    readMembers? steps (listed parts ++ '\x7d' :: rest) = none := by
  -- the refused value is the first one, or one of those behind a value that is read
  generalize hStrict : false = strict at h
  induction h generalizing steps with
  | nil => cases hStrict
  | @good strict name v written parts hText hRest ih =>
    have hLength := length_pos_of_opens hText.opens
    cases parts with
    | nil =>
      rw [← hStrict] at hRest
      cases hRest
    | cons next parts =>
      have hMore := hSteps
      rw [listed_cons, List.length_append, List.length_cons, List.length_cons] at hMore
      obtain ⟨steps, rfl⟩ := Nat.exists_eq_add_one_of_ne_zero (show steps ≠ 0 by omega)
      rw [readMembers?_comma name hText next parts (by omega), ih steps (by omega) hStrict]
      rfl
  | @bad name written parts hBad =>
    have hLength := length_pos_of_opens hBad.opens
    cases parts with
    | nil =>
      rw [listed_singleton] at hSteps ⊢
      rw [String.toList_append, List.length_append] at hSteps
      obtain ⟨steps, rfl⟩ := Nat.exists_eq_add_one_of_ne_zero (show steps ≠ 0 by omega)
      rw [readMembers?_named, hBad.refused steps _ (by omega) rfl]
    | cons next parts =>
      rw [listed_cons, List.length_append, String.toList_append, List.length_append] at hSteps
      obtain ⟨steps, rfl⟩ := Nat.exists_eq_add_one_of_ne_zero (show steps ≠ 0 by omega)
      rw [listed_cons, List.append_assoc, List.cons_append, List.cons_append, readMembers?_named,
        hBad.refused steps _ (by omega) rfl]

/-- An array is read exactly if its parts are strict. -/
theorem RowIsRead.isRead {strict : Bool} {parts : List String} (h : RowIsRead strict parts) :
    IsRead strict (array parts).toList := by
  cases strict with
  | true =>
    obtain ⟨values, hValues⟩ := h.exists_values
    exact .text (isTextOf_array hValues)
  | false =>
    have hOpens : Opens (listed parts) := by
      cases h with
      | good hText _ => exact opens_listed hText.opens _
      | bad hBad => exact opens_listed hBad.opens _
    refine .refused ⟨opens_array parts, fun steps rest hSteps _ => ?_⟩
    rw [toList_array, List.length_cons, List.length_append, List.length_singleton] at hSteps
    obtain ⟨steps, rfl⟩ := Nat.exists_eq_add_one_of_ne_zero (show steps ≠ 0 by omega)
    rw [readValue?_array hOpens, readItems?_refused h steps rest (by omega)]
    rfl

/-- So is an object. -/
theorem TableIsRead.isRead {strict : Bool} {parts : List String} (h : TableIsRead strict parts) :
    IsRead strict (object parts).toList := by
  cases strict with
  | true =>
    obtain ⟨entries, hEntries⟩ := h.exists_entries
    exact .text (isTextOf_object hEntries)
  | false =>
    have hOpens : Opens (listed parts) := by
      cases h with
      | good _ _ => exact opens_member ..
      | bad _ => exact opens_member ..
    refine .refused ⟨opens_object parts, fun steps rest hSteps _ => ?_⟩
    rw [toList_object, List.length_cons, List.length_append, List.length_singleton] at hSteps
    obtain ⟨steps, rfl⟩ := Nat.exists_eq_add_one_of_ne_zero (show steps ≠ 0 by omega)
    rw [readValue?_object hOpens, readMembers?_refused h steps rest (by omega)]
    rfl

/-! ## What is read of what is written -/

mutual

/-- **What is written is a text of a value exactly if all numbers in it are finite**; otherwise it
is a text of none. -/
theorem isRead_write (text : Rendering) : ∀ (v : Value) {s : String},
    (write text v).result = .ok s → IsRead (v.parts.all Value.isStrict) s.toList
  | .null, _, h => by
    obtain rfl := Except.ok.inj h
    exact .text isTextOf_null
  | .bool b, _, h => by
    obtain rfl := Except.ok.inj h
    exact .text (isTextOf_bool b)
  | .int n, _, h => by
    obtain rfl := Except.ok.inj h
    exact .text (isTextOf_int n)
  | .float x, _, h => by
    obtain rfl := Except.ok.inj h
    show IsRead (x.isFinite && true) (number x).toList
    rw [Bool.and_true]
    cases hFinite : x.isFinite with
    | true =>
      obtain ⟨p, hNumber⟩ := exists_number hFinite
      rw [hNumber]
      exact .text (isTextOf_number _ p)
    | false => exact .refused (isNoText_number hFinite)
  | .text s, _, h => by
    obtain rfl := Except.ok.inj h
    exact .text (isTextOf_string s)
  | .join kind, _, h => by
    obtain rfl := Except.ok.inj h
    exact .text (isTextOf_string kind.keyword)
  | .order direction, _, h => by
    obtain rfl := Except.ok.inj h
    exact .text (isTextOf_string direction.keyword)
  | .object o, _, h => by
    obtain rfl := Except.ok.inj h
    rw [ofObject]
    split
    · exact .text (isTextOf_int _)
    · exact .text (isTextOf_string o.plain)
  | .list items, _, h => by
    obtain ⟨parts, hParts, rfl⟩ := write_list_eq_ok.mp h
    exact (rowIsRead_write text items hParts).isRead
  | .tuple items, _, h => by
    obtain ⟨parts, hParts, rfl⟩ := write_tuple_eq_ok.mp h
    exact (rowIsRead_write text items hParts).isRead
  | .dict entries, _, h => by
    obtain ⟨parts, hParts, rfl⟩ := write_dict_eq_ok.mp h
    exact (tableIsRead_write text entries hParts).isRead
  | .bytes _, _, h | .set _, _, h | .iterator _, _, h | .statement _, _, h => by
    -- what JSON has no form for is a string of its plain form
    simp only [write] at h
    obtain ⟨written, -, rfl⟩ := Logged.result_bind_pure_eq_ok.mp h
    exact .text (isTextOf_string written)

/-- Whether what is written of a row is strict is told by its parts. -/
theorem rowIsRead_write (text : Rendering) : ∀ (values : List Value) {parts : List String},
    (writeAll text values).result = .ok parts →
      RowIsRead ((Value.partsOfAll values).all Value.isStrict) parts
  | [], _, h => by
    obtain rfl := Except.ok.inj h
    exact .nil
  | v :: rest, _, h => by
    obtain ⟨first, others, hFirst, hOthers, rfl⟩ := writeAll_cons_eq_ok.mp h
    rw [Value.partsOfAll, List.all_append]
    exact .cons (isRead_write text v hFirst) (rowIsRead_write text rest hOthers)

/-- The same for a table. -/
theorem tableIsRead_write (text : Rendering) :
    ∀ (entries : List (Value × Value)) {parts : List String},
      (writeEntries text entries).result = .ok parts →
        TableIsRead ((Value.partsOfEntries entries).all Value.isStrict) parts
  | [], _, h => by
    obtain rfl := Except.ok.inj h
    exact .nil
  | (name, v) :: rest, _, h => by
    obtain ⟨written, first, others, -, hFirst, hOthers, rfl⟩ := writeEntries_cons_eq_ok.mp h
    rw [Value.partsOfEntries, List.all_append]
    exact .cons written (isRead_write text v hFirst) (tableIsRead_write text rest hOthers)

end

/-- A text that is read as no value denotes none. -/
theorem read?_of_isNoText {s : String} (h : IsNoText s.toList) : read? s = none := by
  have hRead := h.refused (2 * s.length) [] (by rw [String.length_toList]; omega) rfl
  rw [List.append_nil] at hRead
  rw [read?, hRead]

/-- **What is written for a table denotes a table exactly if all numbers in it are finite**, and
otherwise nothing. -/
theorem read?_table {text : Rendering} {entries : List (Value × Value)} {s : String}
    (h : (write text (.dict entries)).result = .ok s) :
    (∃ members, read? s = some (.dict members)) ↔
      ∀ part ∈ Value.partsOfEntries entries, part.isStrict = true := by
  obtain ⟨parts, hParts, rfl⟩ := write_dict_eq_ok.mp h
  have hTable := tableIsRead_write text entries hParts
  rw [← List.all_eq_true]
  cases hStrict : (Value.partsOfEntries entries).all Value.isStrict with
  | true =>
    rw [hStrict] at hTable
    obtain ⟨members, hMembers⟩ := hTable.exists_entries
    exact ⟨fun _ => rfl, fun _ => ⟨members, read?_of_isTextOf (isTextOf_object hMembers)⟩⟩
  | false =>
    rw [hStrict] at hTable
    have hRead : read? (object parts) = none := by
      cases hTable.isRead with
      | refused hRefused => exact read?_of_isNoText hRefused
    rw [hRead]
    exact ⟨nofun, nofun⟩

end Json

end SqlCompose
