import SqlCompose.Proofs.Select.History

/-!
# SqlCompose — which supplied lists a SELECT statement writes

Whether columns were supplied, and whether there is something to group by, is
told from the joined text and not from the list. The text of a list is not empty
as soon as there are two items, since the separator is in it, whatever the items
are; and a single item is its own text. So one list of all passes for one that
was never supplied: that whose only item is the empty text
(`Clause.intercalate_eq_empty_iff`). It may have come from any number of calls
that supplied nothing else.

Main results:

* `Select.supplied_lists_written` — after any run of calls with literal
  fragments the columns stand behind the keyword and the grouping has its clause,
  each with all the items that were supplied, unless the list is of that one form.
* `Select.single_empty_item_lost` — what happens to a list that is.
-/

namespace SqlCompose

namespace Clause

/-- A list that is written like one without items. -/
def IsVoid (row : List String) : Prop := row = [] ∨ row = [""]

instance (row : List String) : Decidable (IsVoid row) :=
  inferInstanceAs (Decidable (row = [] ∨ row = [""]))

/-- The text of a list is empty only if the list has no items or a single one that is empty. -/
theorem intercalate_eq_empty_iff (row : List String) :
    ", ".intercalate row = "" ↔ IsVoid row := by
  cases row with
  | nil => exact ⟨fun _ => .inl rfl, fun _ => String.intercalate_nil⟩
  | cons first rest =>
    cases rest with
    | nil =>
      rw [String.intercalate_singleton, IsVoid]
      simp
    | cons next others =>
      -- the separator between the first two items is there
      rw [String.intercalate_cons_cons, IsVoid]
      simp

end Clause

namespace Select

open Clause (IsVoid)

/-! ## The two lists in the text -/

/-- What stands for a list of columns. -/
def columnsWritten (row : List String) : String :=
  if IsVoid row then "*" else ", ".intercalate row

/-- The clause for a list of expressions to group by. -/
def groupingWritten (row : List String) : String :=
  if IsVoid row then "" else " GROUP BY " ++ ", ".intercalate row

theorem optional_grouping (row : List String) :
    Clause.optional "GROUP BY" (", ".intercalate row) = groupingWritten row := by
  simp only [Clause.optional, groupingWritten, Clause.intercalate_eq_empty_iff]
  rfl

/-- The clauses between the table and the grouping. -/
def clausesBefore (s : Select) : String :=
  Clause.optional "AS" s.tableAlias.literal
    ++ String.join (s.joins.map Join.literalText)
    ++ Clause.optional "WHERE" s.condition.literal

/-- The clauses behind the grouping. -/
def clausesAfter (s : Select) : String :=
  Clause.optional "HAVING" s.groupCondition.literal
    ++ (if s.orderTerms.isEmpty then ""
        else " ORDER BY " ++ ", ".intercalate (s.orderTerms.map OrderTerm.literalText))
    ++ s.limit.elim "" (fun count => " LIMIT " ++ count.formatted .blank)
    ++ s.offset.elim "" (fun count => " OFFSET " ++ count.formatted .blank)
    ++ ";"

theorem literalText_eq (s : Select) :
    s.literalText = "SELECT " ++ columnsWritten (s.columns.map Value.literal) ++ " FROM "
      ++ s.table.plain .blank ++ s.clausesBefore
      ++ groupingWritten (s.groupColumns.map Value.literal) ++ s.clausesAfter := by
  unfold literalText clausesBefore clausesAfter
  simp only [optional_grouping, columnsWritten, Clause.intercalate_eq_empty_iff,
    String.append_assoc]

/-! ## What was supplied -/

/-- The columns that a history of accepted calls supplies, in their order. -/
def suppliedColumns (history : List Call) : List String :=
  (history.flatMap columnsGiven).map Value.literal

/-- The expressions to group by that a history of accepted calls supplies, in their order. -/
def suppliedGrouping (history : List Call) : List String :=
  (history.flatMap groupColumnsGiven).map Value.literal

/-- The text of what a history adds up to, with the two lists that its calls supplied. -/
def textOfSupplied (table : String) (history : List Call) : String :=
  let s := ofHistory (.text table) history
  "SELECT " ++ columnsWritten (suppliedColumns history) ++ " FROM " ++ table ++ s.clausesBefore
    ++ groupingWritten (suppliedGrouping history) ++ s.clausesAfter

/-- **Supplied lists are written.** After any run of calls with literal fragments a SELECT statement
is built. Its text begins with all the columns that the accepted calls supplied, and its grouping
has all the expressions that they supplied. The star stands for the columns, and there is no
grouping, exactly if the list has no items or a single one that is empty. -/
theorem supplied_lists_written (store : Store) {table : String}
    (hTable : Text.isAllBlank table = false) {calls : List Call}
    (hCalls : ∀ call ∈ calls, call.isLiteral = true) :
    ∃ fresh, create (.text table) = .ok fresh ∧
      ((Run.after (apply store.text) fresh calls).apply store.text .build).reply.result =
        .ok (.built (textOfSupplied table (Run.accepted (apply store.text) fresh calls))) := by
  refine ⟨_, create_text hTable, ?_⟩
  -- the text of what the accepted calls add up to, which the run has left
  have hAfter := after_eq_ofHistory store.text (.text table) [] calls
  rw [List.nil_append] at hAfter
  rw [hAfter]
  have hLiteral : (ofHistory (.text table)
      (Run.accepted (apply store.text) (ofHistory (.text table) []) calls)).Literal :=
    ofHistory_literal fun call hCall =>
      hCalls call (Run.mem_of_mem_accepted (apply store.text) hCall)
  rw [apply, Answer.result_built, render_literal store hLiteral, literalText_eq]
  rfl

/-- A run with an empty column in front of another, a list without items, two empty expressions to
group by, and a bare text that is refused. -/
def auditRun : List Call :=
  [.columns (.list [.text ""]), .columns (.list []), .groupColumns (.tuple [.text ""]),
    .columns (.text "id"), .columns (.list [.text "id"]), .groupColumns (.list [.text ""])]

theorem supplied_lists_of_auditRun :
    ∃ fresh, create (.text "audit") = .ok fresh ∧
      ((Run.after (apply (Store.text {})) fresh auditRun).apply (Store.text {})
        .build).reply.result = .ok (.built "SELECT , id FROM audit GROUP BY , ;") := by
  have hTable : Text.isAllBlank "audit" = false := by decide
  have hCalls : ∀ call ∈ auditRun, call.isLiteral = true := by decide
  obtain ⟨fresh, hCreate, hBuild⟩ := supplied_lists_written {} hTable hCalls
  refine ⟨fresh, hCreate, hBuild.trans ?_⟩
  cases hCreate
  rfl

/-- A column that is the empty text, and no other. -/
def emptyColumn : Call := .columns (.list [.text ""])

/-- An expression to group by that is the empty text, and no other. -/
def emptyGrouping : Call := .groupColumns (.list [.text ""])

/-- A list with a single empty item is not an empty list, but the star is written in place of the
columns, and the grouping is left out. -/
theorem single_empty_item_lost :
    ∃ fresh, create (.text "t") = .ok fresh ∧
      (suppliedColumns (Run.accepted (apply (Store.text {})) fresh [emptyColumn]) = [""] ∧
        ((Run.after (apply (Store.text {})) fresh [emptyColumn]).apply (Store.text {})
          .build).reply.result = .ok (.built "SELECT * FROM t;") ∧
        ¬ ("SELECT " ++ ", ".intercalate [""] ++ " FROM t").toList <+: "SELECT * FROM t;".toList) ∧
      suppliedGrouping (Run.accepted (apply (Store.text {})) fresh [emptyGrouping]) = [""] ∧
        ((Run.after (apply (Store.text {})) fresh [emptyGrouping]).apply (Store.text {})
          .build).reply.result = .ok (.built "SELECT * FROM t;") ∧
        "SELECT * FROM t;" ≠ "SELECT * FROM t GROUP BY " ++ ", ".intercalate [""] ++ ";" := by
  refine ⟨_, rfl, ⟨rfl, rfl, ?_⟩, rfl, rfl, ?_⟩
  -- the text that has the empty item in it has two spaces side by side
  · decide
  · decide

end Select

end SqlCompose
