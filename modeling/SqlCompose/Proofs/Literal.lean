import SqlCompose.Proofs.Run
import SqlCompose.Statement.Store

/-!
# SqlCompose — statements of literal fragments

A fragment is literal if it is a text itself: no member of a closed set, no
number, no other statement. Literal fragments are written as they are given, in
every collection of statements and at every time, so the text of a statement
that has no others can be said without a rendering (`Select.literalText`,
`Insert.literalText`, `Update.literalText`, `Delete.literalText`).

* `Store.text_text`: a literal fragment is written as it is given.
* `Select.render_literal`, `Insert.render_literal`, `Update.render_literal`,
  `Delete.render_literal`: a statement of literal fragments has its literal text.
-/

namespace SqlCompose

/-! ## Literal fragments -/

namespace Value

/-- A value that is a text itself. -/
def isLiteral : Value → Bool
  | .text _ => true
  | _ => false

/-- A value that is a text itself, or null. -/
def isLiteralOrNull : Value → Bool
  | .null => true
  | v => v.isLiteral

/-- The text of a literal value; nothing else has one. -/
def literal : Value → String
  | .text s => s
  | _ => ""

/-- The items that a list of fragments stands for; what cannot be gone through stands for none. -/
def listed (v : Value) : List Value := v.elements?.getD []

/-- Going through the value yields literal values only. -/
def yieldsLiterals (v : Value) : Bool := v.listed.all isLiteral

/-- A literal fragment is the text that is written for it. -/
theorem eq_text_of_isLiteral {v : Value} (h : v.isLiteral = true) : v = .text v.literal := by
  cases v with
  | text s => rfl
  | _ => simp [isLiteral] at h

/-- What may be left out is null, or such a text. -/
theorem eq_null_or_text_of_isLiteralOrNull {v : Value} (h : v.isLiteralOrNull = true) :
    v = .null ∨ v = .text v.literal := by
  cases v with
  | null => exact Or.inl rfl
  | text s => exact Or.inr rfl
  | _ => simp [isLiteralOrNull, isLiteral] at h

/-- A list of literal fragments stands for literal items. -/
theorem isLiteral_of_mem_listed {items v : Value} (h : items.yieldsLiterals = true)
    (hv : v ∈ items.listed) : v.isLiteral = true := by
  rw [yieldsLiterals, List.all_eq_true] at h
  exact h v hv

/-- Texts are equal if they are the same. -/
theorem equal_text (a b : String) : equal (.text a) (.text b) = (a == b) := by
  simp [equal, equalAtoms, int?, text?]

/-- Literal values are equal only if they are the same. -/
theorem eq_of_equal_literal {v w : Value} (hv : v.isLiteral = true) (hw : w.isLiteral = true)
    (h : equal v w = true) : v = w := by
  rw [eq_text_of_isLiteral hv, eq_text_of_isLiteral hw, equal_text, beq_iff_eq] at h
  rw [eq_text_of_isLiteral hv, eq_text_of_isLiteral hw, h]

/-- A text equals itself, so that it can be found again as a column. -/
theorem equal_self_of_isLiteral {v : Value} (hv : v.isLiteral = true) : equal v v = true := by
  rw [eq_text_of_isLiteral hv, equal_text, beq_self_eq_true]

/-- The texts of a row of literal values, whatever the place of its first element. -/
theorem textsFrom_literal {row : List Value} (h : ∀ v ∈ row, v.isLiteral = true) :
    ∀ index, textsFrom index row = .ok (row.map literal) := by
  induction row with
  | nil => exact fun _ => rfl
  | cons v rest ih =>
    intro index
    -- the place would only be named in a refusal
    have hv := eq_text_of_isLiteral (h v (List.mem_cons_self ..))
    have hRest := ih (fun w hw => h w (List.mem_cons_of_mem _ hw)) (index + 1)
    rw [hv]
    simp only [textsFrom, text?, hRest, List.map_cons, literal]

end Value

/-- A literal fragment is written as it is given. -/
theorem Store.text_text (store : Store) (s : String) : store.text (.text s) = pure s := by
  rw [Store.text]
  -- a text refers to nothing, so the depth does not matter
  cases store.size with
  | zero => rfl
  | succ depth => rfl

/-- The text of a literal fragment is there, whatever the statements are. -/
theorem Store.text_of_isLiteral (store : Store) {v : Value} (h : v.isLiteral = true) :
    store.text v = pure v.literal := by
  rw [Value.eq_text_of_isLiteral h]
  exact store.text_text _

/-- A table is a text or a member of a closed set; neither refers to a statement. -/
theorem Store.text_of_isText (store : Store) {v : Value} (h : v.isText = true) :
    store.text v = pure (v.plain .blank) := by
  cases v with
  | text s => exact store.text_text s
  | join kind =>
    rw [Store.text]
    cases store.size <;> rfl
  | order direction =>
    rw [Store.text]
    cases store.size <;> rfl
  | _ => cases h

/-- An argument that is accepted as a list of fragments yields its items. -/
theorem Argument.listed_of_items {clause : String} {given : Value} {added : List Value}
    (h : Argument.items clause given = .ok added) : given.listed = added := by
  unfold Argument.items at h
  split at h
  · cases h
  · rw [Value.listed]
    cases hElements : given.elements? with
    | none => rw [hElements] at h; cases h
    | some elements => rw [hElements] at h; cases h; rfl

/-- What is accepted as a table counts as text, and is taken as it is. -/
theorem Argument.isText_of_table {given checked : Value} (h : Argument.table given = .ok checked) :
    checked = given ∧ given.isText = true := by
  unfold Argument.table at h
  split at h
  · rename_i s hText
    split at h
    · cases h
    · cases h
      exact ⟨rfl, by rw [Value.isText, hText, Option.isSome_some]⟩
  · cases h

/-- What is made of a table is made of the table as it is given. -/
theorem Argument.eq_of_map_table {α : Type} {f : Value → α} {given : Value} {made : α}
    (h : (Argument.table given).map f = .ok made) : made = f given ∧ given.isText = true := by
  cases hTable : Argument.table given with
  | ok checked =>
    obtain ⟨rfl, hText⟩ := Argument.isText_of_table hTable
    rw [hTable] at h
    cases h
    exact ⟨rfl, hText⟩
  | error fault =>
    rw [hTable] at h
    cases h

/-- A call whose fragments are literal; aliases and conditions may be null, and lists are lists of
fragments. Kinds, directions and counts are not fragments and may be anything. -/
def Call.isLiteral : Call → Bool
  | .tableAlias name => name.isLiteralOrNull
  | .columns items => items.yieldsLiterals
  | .values items => items.yieldsLiterals
  | .assign column value => column.isLiteral && value.isLiteral
  | .join _ table on name => table.isLiteral && on.isLiteral && name.isLiteralOrNull
  | .joinOf _ table on name => table.isLiteral && on.isLiteral && name.isLiteralOrNull
  | .condition body => body.isLiteralOrNull
  | .groupColumns items => items.yieldsLiterals
  | .groupCondition body => body.isLiteralOrNull
  | .orderTerm column _ => column.isLiteral
  | .limit _ => true
  | .offset _ => true
  | .build => true

/-! ## Literal clauses -/

theorem Logged.ofExcept_ok {α : Type} (a : α) : Logged.ofExcept (.ok a) = pure a := rfl

/-- An operation that reports nothing on any element of a list is a function of the elements. -/
theorem Logged.each_pure {α β : Type} {f : α → Logged β} {g : α → β} {row : List α}
    (h : ∀ a ∈ row, f a = pure (g a)) : Logged.each f row = pure (row.map g) := by
  induction row with
  | nil => rfl
  | cons a rest ih =>
    rw [Logged.each, h a (List.mem_cons_self ..),
      ih fun b hb => h b (List.mem_cons_of_mem _ hb)]
    rfl

namespace Clause

variable {store : Store}

/-- A clause with a literal body is written, or left out if the body is empty. -/
theorem condition_literal {keyword : String} {body : Value} (h : body.isLiteralOrNull = true) :
    condition store.text keyword body = pure (optional keyword body.literal) := by
  rcases Value.eq_null_or_text_of_isLiteralOrNull h with hv | hv
  · rw [hv]
    rfl
  · -- a text: the empty one leaves the clause out, like null
    rw [hv, Value.literal, condition, optional, isAbsent]
    by_cases hEmpty : body.literal = ""
    · rw [if_pos (by rw [hEmpty]; rfl), if_pos hEmpty]
    · rw [if_neg (by simpa using hEmpty), if_neg hEmpty, store.text_text, pure_bind]

/-- So is a literal alias. -/
theorem tableAlias_literal {name : Value} (h : name.isLiteralOrNull = true) :
    tableAlias store.text name = pure (optional "AS" name.literal) := by
  rcases Value.eq_null_or_text_of_isLiteralOrNull h with hv | hv
  · rw [hv]
    rfl
  · -- a text counts as true unless it is empty
    rw [hv, Value.literal, tableAlias, optional, Value.isTrue]
    by_cases hEmpty : name.literal = ""
    · rw [if_neg (by simp [hEmpty]), if_pos hEmpty]
    · rw [if_pos (by simpa using hEmpty), if_neg hEmpty, store.text_text, pure_bind]
      rfl

/-- Literal items are joined. -/
theorem list_literal {items : List Value} (h : ∀ v ∈ items, v.isLiteral = true) :
    list items = .ok (", ".intercalate (items.map Value.literal)) := by
  rw [list, Value.joinedTexts, Value.texts, Value.textsFrom_literal h]
  rfl

/-- A list of texts that are not empty has an empty text only if there are none. -/
theorem intercalate_eq_empty {texts : List String} (h : ∀ t ∈ texts, t ≠ "") :
    ", ".intercalate texts = "" ↔ texts = [] := by
  cases texts with
  | nil => exact ⟨fun _ => rfl, fun _ => String.intercalate_nil⟩
  | cons first rest =>
    -- the first text is there, whatever is behind it
    have hFirst := h first (List.mem_cons_self ..)
    refine ⟨fun hEmpty => ?_, fun hNone => (nomatch hNone)⟩
    cases rest with
    | nil => exact absurd (String.intercalate_singleton.symm.trans hEmpty) hFirst
    | cons next others =>
      rw [String.intercalate_cons_cons, String.append_eq_empty_iff,
        String.append_eq_empty_iff] at hEmpty
      exact absurd hEmpty.1.1 hFirst

/-- The clause of a list whose items have a text is left out exactly when there are none. -/
theorem optional_intercalate (keyword : String) {texts : List String} (h : ∀ t ∈ texts, t ≠ "") :
    optional keyword (", ".intercalate texts) =
      if texts.isEmpty then "" else " " ++ keyword ++ " " ++ ", ".intercalate texts := by
  rw [optional]
  by_cases hNone : texts = []
  · rw [if_pos ((intercalate_eq_empty h).mpr hNone), if_pos (List.isEmpty_iff.mpr hNone)]
  · rw [if_neg fun hEmpty => hNone ((intercalate_eq_empty h).mp hEmpty),
      if_neg fun hEmpty => hNone (List.isEmpty_iff.mp hEmpty)]

end Clause

/-! ## SELECT statements -/

/-- The fragments of a join are literal, and its alias is literal or null. -/
structure Join.Literal (join : Join) : Prop where
  table      : join.table.isLiteral = true
  condition  : join.condition.isLiteral = true
  tableAlias : join.tableAlias.isLiteralOrNull = true

/-- The text of a join of literal fragments. -/
def Join.literalText (join : Join) : String :=
  " " ++ join.kind.keyword ++ " JOIN " ++ join.table.literal
    ++ Clause.optional "AS" join.tableAlias.literal ++ " ON " ++ join.condition.literal

/-- A join of literal fragments is written. -/
theorem Join.render_literal (store : Store) {join : Join} (h : join.Literal) :
    join.render store.text = pure join.literalText := by
  rw [Join.render, Clause.join, store.text_of_isLiteral h.table,
    Clause.tableAlias_literal h.tableAlias, store.text_of_isLiteral h.condition]
  rfl

/-- The text of a term of an ordering by a literal column. -/
def OrderTerm.literalText (term : OrderTerm) : String :=
  term.column.literal ++ " " ++ term.direction.keyword

/-- So is a term of an ordering by a literal column. -/
theorem OrderTerm.render_literal (store : Store) {term : OrderTerm}
    (h : term.column.isLiteral = true) :
    term.render store.text = pure term.literalText := by
  rw [OrderTerm.render, Clause.orderTerm, store.text_of_isLiteral h]
  rfl

/-- Terms of an ordering have a text that is not empty. -/
theorem OrderTerm.literalText_ne_empty (term : OrderTerm) : term.literalText ≠ "" := by
  intro h
  have hChars := congrArg String.toList h
  simp [OrderTerm.literalText] at hChars

/-- The ORDER BY clause is left out exactly when there are no terms. -/
theorem Clause.optional_orderTerms (terms : List OrderTerm) :
    optional "ORDER BY" (separator.intercalate (terms.map OrderTerm.literalText)) =
      if terms.isEmpty then ""
      else " ORDER BY " ++ ", ".intercalate (terms.map OrderTerm.literalText) := by
  have hTexts : ∀ t ∈ terms.map OrderTerm.literalText, t ≠ "" := by
    intro t ht
    obtain ⟨term, -, rfl⟩ := List.mem_map.mp ht
    exact term.literalText_ne_empty
  have hClause := optional_intercalate "ORDER BY" hTexts
  rw [List.isEmpty_map] at hClause
  exact hClause

namespace Select

/-- The fragments of a SELECT statement are literal; its alias and its conditions may be null. -/
structure Literal (s : Select) : Prop where
  table          : s.table.isText = true
  tableAlias     : s.tableAlias.isLiteralOrNull = true
  columns        : ∀ v ∈ s.columns, v.isLiteral = true
  joins          : ∀ join ∈ s.joins, join.Literal
  condition      : s.condition.isLiteralOrNull = true
  groupColumns   : ∀ v ∈ s.groupColumns, v.isLiteral = true
  groupCondition : s.groupCondition.isLiteralOrNull = true
  orderTerms     : ∀ term ∈ s.orderTerms, term.column.isLiteral = true

/-- The text of a SELECT statement of literal fragments, clause by clause. -/
def literalText (s : Select) : String :=
  let columns := ", ".intercalate (s.columns.map Value.literal)
  "SELECT " ++ (if columns = "" then "*" else columns) ++ " FROM " ++ s.table.plain .blank
    ++ Clause.optional "AS" s.tableAlias.literal
    ++ String.join (s.joins.map Join.literalText)
    ++ Clause.optional "WHERE" s.condition.literal
    ++ Clause.optional "GROUP BY" (", ".intercalate (s.groupColumns.map Value.literal))
    ++ Clause.optional "HAVING" s.groupCondition.literal
    ++ (if s.orderTerms.isEmpty then ""
        else " ORDER BY " ++ ", ".intercalate (s.orderTerms.map OrderTerm.literalText))
    ++ s.limit.elim "" (fun count => " LIMIT " ++ count.formatted .blank)
    ++ s.offset.elim "" (fun count => " OFFSET " ++ count.formatted .blank)
    ++ ";"

/-- A count is written behind its keyword, and nothing is written if there is none. -/
theorem countClause_eq_elim (keyword : String) (count : Option Value) :
    countClause keyword count =
      count.elim "" fun count => " " ++ keyword ++ " " ++ count.formatted .blank := by
  cases count with
  | none => rfl
  | some count => rfl

/-- **A SELECT statement of literal fragments is built**, and this is its text. -/
theorem render_literal (store : Store) {s : Select} (h : s.Literal) :
    (s.render store.text).result = .ok s.literalText := by
  rw [render, Clause.list_literal h.columns, store.text_of_isText h.table,
    Clause.tableAlias_literal h.tableAlias,
    Logged.each_pure fun join hj => Join.render_literal store (h.joins join hj),
    Clause.condition_literal h.condition, Clause.listClause,
    Clause.list_literal h.groupColumns, Clause.condition_literal h.groupCondition,
    Logged.each_pure fun term ht => OrderTerm.render_literal store (h.orderTerms term ht)]
  simp only [Logged.ofExcept_ok, Except.map, pure_bind]
  rw [Clause.optional_orderTerms, countClause_eq_elim, countClause_eq_elim]
  rfl

end Select

/-! ## INSERT statements -/

namespace Insert

/-- The columns and the values of an INSERT statement are literal. -/
structure Literal (s : Insert) : Prop where
  table   : s.table.isText = true
  columns : ∀ v ∈ s.columns, v.isLiteral = true
  values  : ∀ v ∈ s.values, v.isLiteral = true

/-- The text of an INSERT statement of literal fragments. -/
def literalText (s : Insert) : String :=
  "INSERT INTO " ++ s.table.plain .blank ++ " (" ++ ", ".intercalate (s.columns.map Value.literal)
    ++ ") VALUES (" ++ ", ".intercalate (s.values.map Value.literal) ++ ");"

/-- An INSERT statement of literal fragments is written if it is aligned and has a column; otherwise
it is refused. -/
theorem render_literal (store : Store) {s : Insert} (h : s.Literal) :
    (s.render store.text).result =
      if s.columns.length ≠ s.values.length then
        .error (.misaligned (s.table.plain .blank) s.columns.length s.values.length)
      else if s.columns = [] then .error (.noColumns (s.table.plain .blank))
      else .ok s.literalText := by
  rw [render, requireAligned, store.text_of_isText h.table, Clause.list_literal h.columns,
    Clause.list_literal h.values]
  by_cases hLength : s.columns.length = s.values.length
  · have hAligned : s.isAligned = true := by simpa [isAligned] using hLength
    have hSame : ¬ s.columns.length ≠ s.values.length := fun hne => hne hLength
    -- aligned, so only a statement without columns is refused
    rw [if_pos hAligned, pure_bind, if_neg hSame]
    by_cases hEmpty : s.columns = []
    · rw [if_pos hEmpty, hEmpty]
      rfl
    · have hSome : ¬ s.columns.isEmpty = true := by simpa using hEmpty
      rw [if_neg hEmpty, if_neg hSome]
      show Except.ok ((_ ++ ")") ++ ";") = _
      rw [String.append_assoc]
      rfl
  · -- the lists are compared before anything else is looked at
    have hMisaligned : ¬ s.isAligned = true := by simpa [isAligned] using hLength
    rw [if_neg hMisaligned, if_pos hLength]
    rfl

/-- The texts of INSERT statements of literal fragments are those of aligned ones with a column. -/
theorem render_literal_eq_ok (store : Store) {s : Insert} (h : s.Literal) {sql : String} :
    (s.render store.text).result = .ok sql ↔
      s.columns.length = s.values.length ∧ s.columns ≠ [] ∧ sql = s.literalText := by
  rw [render_literal store h]
  constructor
  · intro hOk
    split at hOk
    · cases hOk
    · split at hOk
      · cases hOk
      · cases hOk
        exact ⟨by omega, by assumption, rfl⟩
  · rintro ⟨hLength, hSome, rfl⟩
    rw [if_neg (by omega), if_neg hSome]

end Insert

/-! ## UPDATE statements -/

namespace Update

/-- The assignments of an UPDATE statement are literal; its condition may be null. -/
structure Literal (s : Update) : Prop where
  table       : s.table.isText = true
  assignments : ∀ entry ∈ s.assignments, entry.1.isLiteral = true ∧ entry.2.isLiteral = true
  condition   : s.condition.isLiteralOrNull = true

/-- The text of an assignment of a literal value to a literal column. -/
def assignmentText (entry : Value × Value) : String := entry.1.literal ++ " = " ++ entry.2.literal

/-- The text of an UPDATE statement of literal fragments. -/
def literalText (s : Update) : String :=
  "UPDATE " ++ s.table.plain .blank ++ " SET "
    ++ ", ".intercalate (s.assignments.map assignmentText)
    ++ Clause.optional "WHERE" s.condition.literal ++ ";"

/-- An assignment of literal fragments is written. -/
theorem assignment_literal (store : Store) {entry : Value × Value}
    (hColumn : entry.1.isLiteral = true) (hValue : entry.2.isLiteral = true) :
    Clause.assignment store.text entry.1 entry.2 = pure (assignmentText entry) := by
  rw [Clause.assignment, store.text_of_isLiteral hColumn, store.text_of_isLiteral hValue]
  rfl

/-- An UPDATE statement of literal fragments is written if it has an assignment; otherwise it is
refused. -/
theorem render_literal (store : Store) {s : Update} (h : s.Literal) :
    (s.render store.text).result =
      if s.assignments = [] then .error (.noAssignments (s.table.plain .blank))
      else .ok s.literalText := by
  rw [render, store.text_of_isText h.table, Clause.condition_literal h.condition,
    Logged.each_pure fun entry he => assignment_literal store (h.assignments entry he).1
      (h.assignments entry he).2]
  by_cases hEmpty : s.assignments = []
  · rw [if_pos hEmpty, hEmpty]
    rfl
  · rw [if_neg hEmpty, if_neg (by simpa using hEmpty)]
    rfl

end Update

/-! ## DELETE statements -/

namespace Delete

/-- The condition of a DELETE statement is literal or null. -/
structure Literal (s : Delete) : Prop where
  table     : s.table.isText = true
  condition : s.condition.isLiteralOrNull = true

/-- The text of a DELETE statement of literal fragments. -/
def literalText (s : Delete) : String :=
  "DELETE FROM " ++ s.table.plain .blank ++ Clause.optional "WHERE" s.condition.literal ++ ";"

/-- **A DELETE statement of literal fragments is built.** -/
theorem render_literal (store : Store) {s : Delete} (h : s.Literal) :
    (s.render store.text).result = .ok s.literalText := by
  rw [render, store.text_of_isText h.table, Clause.condition_literal h.condition]
  rfl

end Delete

end SqlCompose
