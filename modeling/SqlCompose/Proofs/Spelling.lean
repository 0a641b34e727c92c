import Mathlib.Data.List.Chain
import SqlCompose.Argument

/-!
# SqlCompose — which words name a member of a closed set

A join kind or a direction may be given by a word. What the word is compared with
is its upper case, and that is the upper case of all of Unicode: two letters
beyond ASCII have an ASCII letter for it, the dotless i and the long s, and so
they pass for an i and an s. Nothing else is let in. The eight characters whose
upper case is more than one letter never get into a keyword, since no keyword
has the letters of one of them side by side (`Text.ligatures`).

Main results:

* `Text.uppercase_eq_iff` — a word is a keyword in upper case exactly if it is
  spelled like the keyword, letter by letter.
* `Argument.words_accepted` — what is taken for a kind and for a direction, and
  that everything else is refused.
* `Argument.foreign_letters_accepted` — two words with a letter that no keyword
  has in either case.
-/

namespace SqlCompose

namespace Text

/-! ## Letters -/

/-- A letter beyond ASCII with a single ASCII letter for its upper case, as the ASCII letter that it
passes for; any other character as it is. -/
def asciiLetter : Char → Char
  | '\u0131' => 'i'
  | '\u017f' => 's'
  | c => c

/-- A character as a letter of a keyword. -/
def keywordLetter (c : Char) : Char := (asciiLetter c).toUpper

/-- What the upper case of a character begins with if it has more than one letter. -/
def ligatures : List (Char × Char) :=
  [('S', 'S'), ('F', 'F'), ('F', 'I'), ('F', 'L'), ('S', 'T')]

/-- Upper-case letters of ASCII, no two neighbours of which begin the upper case of one
character. -/
def IsKeyword (letters : List Char) : Prop :=
  (∀ c ∈ letters, c.isUpper = true) ∧ letters.IsChain fun a b => (a, b) ∉ ligatures

/-- The upper case of a character is one letter, or it begins with two that are not neighbours in a
keyword; in that case the character itself is no letter of a keyword. -/
theorem uppercaseChar_cases (c : Char) :
    uppercaseChar c = [keywordLetter c] ∨
      (keywordLetter c).isUpper = false ∧
        ∃ a b more, uppercaseChar c = a :: b :: more ∧ (a, b) ∈ ligatures := by
  unfold uppercaseChar
  split
  -- the two letters beyond ASCII
  iterate 2 exact .inl rfl
  -- the eight characters with more than one letter
  iterate 8 exact .inr ⟨by decide, _, _, _, rfl, by decide⟩
  · rename_i hDotless hLong _ _ _ _ _ _ _ _
    have hSelf : asciiLetter c = c := by
      unfold asciiLetter
      split
      · exact absurd rfl hDotless
      · exact absurd rfl hLong
      · rfl
    rw [keywordLetter, hSelf]
    exact .inl rfl

/-- Letter by letter, and no two letters by one character. -/
theorem flatMap_uppercaseChar {word letters : List Char} (h : IsKeyword letters) :
    word.flatMap uppercaseChar = letters ↔ word.map keywordLetter = letters := by
  induction word generalizing letters with
  | nil => exact Iff.rfl
  | cons c word ih =>
    rw [List.flatMap_cons, List.map_cons]
    rcases uppercaseChar_cases c with hOne | ⟨hNone, a, b, more, hMany, hLigature⟩
    · rw [hOne, List.singleton_append]
      cases letters with
      | nil => exact ⟨nofun, nofun⟩
      | cons k letters =>
        have hRest : IsKeyword letters :=
          ⟨fun d hd => h.1 d (List.mem_cons_of_mem _ hd), h.2.tail⟩
        rw [List.cons.injEq, List.cons.injEq, ih hRest]
    · -- neither side is possible: the letters are no neighbours, the character is no letter
      rw [hMany]
      constructor
      · rintro rfl
        exact absurd hLigature (List.isChain_cons_cons.mp h.2).1
      · rintro rfl
        have hUpper := h.1 _ (List.mem_cons_self ..)
        rw [hNone] at hUpper
        cases hUpper

/-- The word between the blanks of a text is a keyword, but for the case of its letters; a dotless i
counts as an i, and a long s as an s. -/
def Spells (s keyword : String) : Prop :=
  (strip s).toList.map keywordLetter = keyword.toList

instance (s keyword : String) : Decidable (Spells s keyword) :=
  inferInstanceAs (Decidable ((strip s).toList.map keywordLetter = keyword.toList))

/-- **A word is a keyword in upper case exactly if it is spelled like it.** -/
theorem uppercase_eq_iff {keyword : String} (h : IsKeyword keyword.toList) (s : String) :
    uppercase (strip s) = keyword ↔ Spells s keyword := by
  rw [Spells, ← flatMap_uppercaseChar h, uppercase, ← String.toList_inj, String.toList_ofList]

/-- Without the two letters it is the case of the ASCII letters that does not matter, and nothing
else. -/
theorem spells_iff_of_ascii {s : String} (h : ∀ c ∈ (strip s).toList, asciiLetter c = c)
    (keyword : String) :
    Spells s keyword ↔ (strip s).toList.map Char.toUpper = keyword.toList := by
  have hSame : (strip s).toList.map keywordLetter = (strip s).toList.map Char.toUpper :=
    List.map_congr_left fun c hc => by rw [keywordLetter, h c hc]
  rw [Spells, hSame]

end Text

/-! ## The two sets -/

theorem JoinKind.isKeyword_keyword (kind : JoinKind) : Text.IsKeyword kind.keyword.toList := by
  cases kind <;> exact ⟨List.all_eq_true.mp (by decide), by decide⟩

theorem SortOrder.isKeyword_keyword (order : SortOrder) : Text.IsKeyword order.keyword.toList := by
  cases order <;> exact ⟨List.all_eq_true.mp (by decide), by decide⟩

theorem SortOrder.isKeyword_name (order : SortOrder) : Text.IsKeyword order.name.toList := by
  cases order <;> exact ⟨List.all_eq_true.mp (by decide), by decide⟩

/-- The kind that a word names is the one whose keyword it spells. -/
theorem JoinKind.ofWord?_eq_some {s : String} {kind : JoinKind} :
    ofWord? s = some kind ↔ Text.Spells s kind.keyword := by
  rw [← Text.uppercase_eq_iff kind.isKeyword_keyword, ofWord?, ofKeyword?]
  constructor
  · intro h
    have hFound := List.find?_some h
    rw [beq_iff_eq] at hFound
    exact hFound.symm
  · intro h
    rw [h]
    cases kind <;> decide

/-- The direction that a word names is the one whose keyword or name it spells. -/
theorem SortOrder.ofWord?_eq_some {s : String} {order : SortOrder} :
    ofWord? s = some order ↔ Text.Spells s order.keyword ∨ Text.Spells s order.name := by
  rw [← Text.uppercase_eq_iff order.isKeyword_keyword, ← Text.uppercase_eq_iff order.isKeyword_name,
    ofWord?]
  constructor
  · intro h
    have hFound := List.find?_some h
    rw [Bool.or_eq_true, beq_iff_eq, beq_iff_eq] at hFound
    exact hFound
  · rintro (h | h)
    all_goals
      rw [h]
      cases order <;> decide

namespace Argument

theorem joinKind_eq_ok {given : Value} {kind : JoinKind} :
    joinKind given = .ok kind ↔
      given = .join kind ∨ ∃ s, given.text? = some s ∧ Text.Spells s kind.keyword := by
  unfold joinKind
  split
  · -- a member spells its own keyword, and no other
    rename_i own
    have hOwn : ∀ own kind : JoinKind, Text.Spells own.keyword kind.keyword ↔ own = kind := by
      intro own kind
      cases own <;> cases kind <;> decide
    simp [Value.text?, hOwn]
  · rename_i hNoMember
    have hOther : given ≠ .join kind := fun h => hNoMember kind h
    simp only [hOther, false_or, ← JoinKind.ofWord?_eq_some, ← Option.bind_eq_some_iff]
    cases given.text?.bind JoinKind.ofWord? with
    | some found => simp
    | none => simp

theorem sortOrder_eq_ok {given : Value} {order : SortOrder} :
    sortOrder given = .ok order ↔
      given = .order order ∨ ∃ s, given.text? = some s ∧
        (Text.Spells s order.keyword ∨ Text.Spells s order.name) := by
  unfold sortOrder
  split
  · rename_i own
    have hOwn : ∀ own order : SortOrder,
        Text.Spells own.keyword order.keyword ∨ Text.Spells own.keyword order.name ↔
          own = order := by
      intro own order
      cases own <;> cases order <;> decide
    simp [Value.text?, hOwn]
  · rename_i hNoMember
    have hOther : given ≠ .order order := fun h => hNoMember order h
    simp only [hOther, false_or, ← SortOrder.ofWord?_eq_some, ← Option.bind_eq_some_iff]
    cases given.text?.bind SortOrder.ofWord? with
    | some found => simp
    | none => simp

/-- **What is taken for a kind and for a direction**: the members, and the texts that spell the
keyword of a kind, or the keyword or the name of a direction. Any other value, of whatever type, is
refused with an error of the library's own. In a word without a dotless i and a long s only the case
of ASCII letters is free. -/
theorem words_accepted (given : Value) :
    (∀ kind, joinKind given = .ok kind ↔
      given = .join kind ∨ ∃ s, given.text? = some s ∧ Text.Spells s kind.keyword) ∧
    (∀ order, sortOrder given = .ok order ↔
      given = .order order ∨ ∃ s, given.text? = some s ∧
        (Text.Spells s order.keyword ∨ Text.Spells s order.name)) ∧
    ((∃ kind, joinKind given = .ok kind) ∨ joinKind given = .error (.unknownJoinKind given)) ∧
    ((∃ order, sortOrder given = .ok order) ∨
      sortOrder given = .error (.unknownSortOrder given)) ∧
    (Fault.unknownJoinKind given).errorClass = .statement ∧
    (Fault.unknownSortOrder given).errorClass = .statement ∧
    ∀ s, (∀ c ∈ (Text.strip s).toList, c ≠ '\u0131' ∧ c ≠ '\u017f') → ∀ keyword,
      Text.Spells s keyword ↔ (Text.strip s).toList.map Char.toUpper = keyword.toList := by
  refine ⟨fun kind => joinKind_eq_ok, fun order => sortOrder_eq_ok, ?_, ?_, rfl, rfl, ?_⟩
  · unfold joinKind
    split
    · exact .inl ⟨_, rfl⟩
    · split
      · exact .inl ⟨_, rfl⟩
      · exact .inr rfl
  · unfold sortOrder
    split
    · exact .inl ⟨_, rfl⟩
    · split
      · exact .inl ⟨_, rfl⟩
      · exact .inr rfl
  · intro s hAscii keyword
    refine Text.spells_iff_of_ascii (fun c hc => ?_) keyword
    unfold Text.asciiLetter
    split
    · exact absurd rfl (hAscii _ hc).1
    · exact absurd rfl (hAscii _ hc).2
    · rfl

/-- Two words that are taken for members, and that spell no keyword and no name in ASCII letters of
either case. -/
theorem foreign_letters_accepted :
    joinKind (.text "\u0131nner") = .ok .inner ∧
      (∀ kind : JoinKind,
        (Text.strip "\u0131nner").toList.map Char.toUpper ≠ kind.keyword.toList) ∧
    sortOrder (.text "a\u017fc") = .ok .ascending ∧
      ∀ order : SortOrder,
        (Text.strip "a\u017fc").toList.map Char.toUpper ≠ order.keyword.toList ∧
          (Text.strip "a\u017fc").toList.map Char.toUpper ≠ order.name.toList := by
  refine ⟨rfl, fun kind => ?_, rfl, fun order => ?_⟩
  · cases kind <;> decide
  · cases order <;> decide

end Argument

end SqlCompose
