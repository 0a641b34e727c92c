import Mathlib.Data.List.DropRight
import SqlCompose.Problem
import SqlCompose.Proofs.Literal

/-!
# SqlCompose — what an error keeps of its arguments

An error of the base class turns what it is made from around: without a detail
the first text among the arguments becomes the detail, and what is left stays
behind as arguments. Making the error once more from what it kept starts from
another list, so it is not plain that nothing moves the second time. Nothing
does if the texts that are kept are not empty, and if without a detail nothing
else is kept either. Such a form is its own result, and no other form is
(`Problem.rebuilt_iff`).

Of the values that the library knows, each one that counts as true is shown with
at least one character (`Value.plain_ne_empty`), so errors made from them are in
this form. A value of another type may count as true and have no text. Taken for
the detail it leaves the detail empty, and the next text moves up when the error
is made again (`Problem.text_moves_up`).

Main results:

* `Text.strip_strip` — taking the blanks off the ends leaves none to take off.
* `Problem.rebuilt_iff` — which errors are the same when they are made again.
* `Problem.normal_form_is_stable` — what is kept, its text, when making the error
  again changes nothing, and that wrapping its text never does.
-/

namespace SqlCompose

/-! ## Blanks at the ends -/

namespace Text

/-- Blanks are dropped on the left, then on the right. -/
theorem stripChars_eq (cs : List Char) :
    stripChars cs = (cs.dropWhile isBlank).rdropWhile isBlank := rfl

/-- What was stripped has nothing more to strip. -/
theorem stripChars_stripChars (cs : List Char) : stripChars (stripChars cs) = stripChars cs := by
  have hFront : (stripChars cs).dropWhile isBlank = stripChars cs := by
    rw [List.dropWhile_eq_self_iff]
    intro hLength
    -- what is left begins with the character that stopped the first round
    have hPrefix : stripChars cs <+: cs.dropWhile isBlank :=
      List.rdropWhile_prefix isBlank (cs.dropWhile isBlank)
    rw [hPrefix.getElem hLength]
    exact List.dropWhile_get_zero_not isBlank cs (hLength.trans_le hPrefix.length_le)
  rw [stripChars_eq (stripChars cs), hFront]
  exact List.rdropWhile_idempotent isBlank _

/-- Taking the blanks off the ends leaves none to take off. -/
theorem strip_strip (s : String) : strip (strip s) = strip s := by
  rw [strip, strip, String.toList_ofList, stripChars_stripChars]

end Text

/-! ## Values that count as true -/

/-- A number always has digits to be written with. -/
theorem Decimal.layoutText_ne_empty (digits : List Char) (point : Int) :
    layoutText .natural digits point ≠ "" := by
  rw [layoutText]
  split
  · -- positional: the point is always written
    rw [joinParts]
    split <;> simp [Layout.natural]
  · -- otherwise there is the mark of the exponent
    simp [scientificText, exponentText]

/-- So every number of the format has a text. -/
theorem Binary64.text_ne_empty (x : Binary64) : x.text ≠ "" := by
  rw [text, signedText]
  split
  · decide
  · have hMagnitude := Decimal.layoutText_ne_empty (Decimal.shortest x).digits
      (Decimal.shortest x).point
    split_ifs <;> simp [hMagnitude]

namespace Value

/-- So has every integer. -/
theorem shown_int_ne_empty (n : Int) : (int n).shown .blank ≠ "" := by
  rw [shown, Int.toString_eq_repr, Int.repr_eq_if]
  split
  · intro hEmpty
    -- a number has a digit
    have hDigits := congrArg String.toList hEmpty
    rw [Nat.toList_repr] at hDigits
    exact Nat.toDigits_ne_nil hDigits
  · simp

/-- A row in brackets has its brackets, if nothing else. -/
theorem tupleShown_ne_empty (parts : List String) : tupleShown parts ≠ "" := by
  rw [tupleShown.eq_def]
  split <;> simp

theorem setShown_ne_empty (parts : List String) : setShown parts ≠ "" := by
  rw [setShown.eq_def]
  split <;> simp

/-- A row of texts can be joined. -/
theorem joinedTexts_text (separator : String) (row : List String) :
    joinedTexts separator (row.map .text) = .ok (separator.intercalate row) := by
  have hLiteral : ∀ v ∈ row.map Value.text, v.isLiteral = true :=
    List.forall_mem_map.mpr fun _ _ => rfl
  have hSame : row.map (literal ∘ text) = row := List.map_id row
  rw [joinedTexts, texts, textsFrom_literal hLiteral, List.map_map, hSame]
  rfl

/-- A value that counts as true is shown with at least one character, unless it is of another
type. -/
theorem plain_ne_empty {v : Value} (h : v.isTrue = true)
    (hObject : ∀ o, v = .object o → o.plain ≠ "") : v.plain .blank ≠ "" := by
  cases v with
  | null => cases h
  | bool b =>
    cases h
    decide
  | int n => exact shown_int_ne_empty n
  | float x => exact x.text_ne_empty
  | text s => exact bne_iff_ne.mp h
  | bytes content => simp [plain, shown, Text.quotedBytes]
  | list items => simp [plain, shown]
  | tuple items => exact tupleShown_ne_empty _
  | set items => exact setShown_ne_empty _
  | dict entries => simp [plain, shown]
  | iterator items => simp [plain, shown]
  | join kind => simp [plain, memberName]
  | order direction => simp [plain, memberName]
  | statement ref => simp [plain, shown, Nameplate.blank]
  | object o => exact hObject o rfl

end Value

/-! ## The form in which an error keeps its texts -/

namespace Problem

/-- The texts of the values that count as true, in their order. -/
def argumentTexts (args : List Value) : List String :=
  (args.filter Value.isTrue).map (Value.plain .blank)

/-- An error of the base class, or of a subclass that keeps its constructor, made from values and a
detail; the subclass may have a detail of its own. -/
def made (args : List Value) (detail : String) (ownName classDetail : Option String) : Problem :=
  general args (.text detail) ownName (classDetail.map .text)

/-- An error of the base class, or of a subclass, that has kept some texts and a detail. -/
def keeping (ownName : Option String) (kept : List String) (detail : String) : Problem :=
  ⟨.general, ownName, kept.map .text, .text detail⟩

variable {args : List Value} {detail : String} {ownName classDetail : Option String}
  {kept : List String}

/-- What is kept of arguments are their texts. -/
theorem texts_eq (args : List Value) : texts args = (argumentTexts args).map .text := by
  rw [texts, argumentTexts, List.map_map]
  rfl

/-- The texts of the arguments are not empty, if those of values of other types are not. -/
theorem argumentTexts_ne_empty
    (h : ∀ o, .object o ∈ args → o.isTrue = true → o.plain ≠ "") :
    ∀ t ∈ argumentTexts args, t ≠ "" := by
  intro t ht
  obtain ⟨v, hv, rfl⟩ := List.mem_map.mp ht
  obtain ⟨hMem, hTrue⟩ := List.mem_filter.mp hv
  refine Value.plain_ne_empty hTrue ?_
  rintro o rfl
  exact h o hMem hTrue

/-! ### The three sources of a detail -/

/-- A detail that is given is kept, and so are all the texts. -/
theorem made_of_detail (h : detail ≠ "") :
    made args detail ownName classDetail = keeping ownName (argumentTexts args) detail := by
  have hTrue : (Value.text detail).isTrue = true := bne_iff_ne.mpr h
  rw [made, general, settle, if_pos hTrue, texts_eq, keeping]

/-- Without a detail, the first text becomes the detail and the others are kept. -/
theorem made_of_texts {first : String} {rest : List String}
    (h : argumentTexts args = first :: rest) :
    made args "" ownName classDetail = keeping ownName rest first := by
  have hFalse : ¬ (Value.text "").isTrue = true := by decide
  rw [made, general, settle, if_neg hFalse, texts_eq, h, List.map_cons, keeping]

/-- Without a detail and without texts, the detail is what the class says. -/
theorem made_of_nothing (h : argumentTexts args = []) :
    made args "" ownName classDetail = keeping ownName [] (classDetail.getD "") := by
  have hFalse : ¬ (Value.text "").isTrue = true := by decide
  rw [made, general, settle, if_neg hFalse, texts_eq, h, List.map_nil, keeping]
  cases classDetail <;> rfl

/-! ### Making an error again -/

/-- The form of arguments and a detail that is its own result: the arguments are not empty, and
where there is no detail there are no arguments and nothing that could become one. -/
structure InNormalForm (classDetail : Option String) (kept : List String) (detail : String) :
    Prop where
  kept_ne_empty : ∀ t ∈ kept, t ≠ ""
  alone         : detail = "" → kept = [] ∧ classDetail.getD "" = ""

/-- What an error keeps of values and a detail. -/
theorem exists_keeping (args : List Value) (detail : String)
    (ownName classDetail : Option String) :
    ∃ kept d, made args detail ownName classDetail = keeping ownName kept d ∧
      ((∀ t ∈ argumentTexts args, t ≠ "") → InNormalForm classDetail kept d) := by
  -- one case for each source of the detail
  by_cases hDetail : detail = ""
  · subst hDetail
    cases hArgs : argumentTexts args with
    | cons first rest =>
      refine ⟨rest, first, made_of_texts hArgs, fun hTexts => ?_⟩
      obtain ⟨hFirst, hRest⟩ := List.forall_mem_cons.mp hTexts
      exact ⟨hRest, fun hEmpty => absurd hEmpty hFirst⟩
    | nil =>
      exact ⟨[], classDetail.getD "", made_of_nothing hArgs, fun _ =>
        ⟨fun _ ht => absurd ht List.not_mem_nil, fun hEmpty => ⟨rfl, hEmpty⟩⟩⟩
  · exact ⟨argumentTexts args, detail, made_of_detail hDetail, fun hTexts =>
      ⟨hTexts, fun hEmpty => absurd hEmpty hDetail⟩⟩

/-- Errors that keep the same were given the same to keep. -/
theorem keeping_inj {kept' : List String} {detail' : String}
    (h : keeping ownName kept detail = keeping ownName kept' detail') :
    kept = kept' ∧ detail = detail' := by
  rw [keeping, keeping, Problem.mk.injEq] at h
  exact ⟨List.map_injective_iff.mpr (fun _ _ => Value.text.inj) h.2.2.1, Value.text.inj h.2.2.2⟩

/-- The texts of texts are those that are not empty. -/
theorem argumentTexts_text (kept : List String) :
    argumentTexts (kept.map .text) = kept.filter (· ≠ "") := by
  rw [argumentTexts, List.filter_map, List.map_map]
  have hTrue : Value.isTrue ∘ Value.text = fun t => decide (t ≠ "") := by
    funext t
    show (t != "") = decide (t ≠ "")
    by_cases h : t = "" <;> simp [h]
  rw [hTrue]
  exact List.map_id _

/-- **An error made again from what was kept is the same error exactly if it is in normal form.** -/
theorem rebuilt_iff :
    made (kept.map .text) detail ownName classDetail = keeping ownName kept detail ↔
      InNormalForm classDetail kept detail := by
  have hTexts := argumentTexts_text kept
  by_cases hDetail : detail = ""
  · subst hDetail
    cases hKept : kept.filter (· ≠ "") with
    | nil =>
      -- nothing could become the detail but what the class says
      rw [made_of_nothing (hTexts.trans hKept)]
      constructor
      · intro h
        obtain ⟨hNone, hClass⟩ := keeping_inj h
        exact ⟨fun t ht => absurd ht (hNone ▸ List.not_mem_nil), fun _ => ⟨hNone.symm, hClass⟩⟩
      · intro h
        rw [(h.alone rfl).1, (h.alone rfl).2]
    | cons first rest =>
      -- the first text that is not empty becomes the detail
      rw [made_of_texts (hTexts.trans hKept)]
      have hFirst : first ∈ kept.filter (· ≠ "") := hKept ▸ List.mem_cons_self ..
      rw [List.mem_filter, decide_eq_true_eq] at hFirst
      refine iff_of_false (fun h => hFirst.2 (keeping_inj h).2) fun h => ?_
      rw [(h.alone rfl).1] at hFirst
      exact absurd hFirst.1 List.not_mem_nil
  · rw [made_of_detail hDetail, hTexts]
    constructor
    · intro h
      refine ⟨fun t ht => ?_, fun hEmpty => absurd hEmpty hDetail⟩
      rw [← (keeping_inj h).1, List.mem_filter, decide_eq_true_eq] at ht
      exact ht.2
    · intro h
      rw [List.filter_eq_self.mpr fun t ht => decide_eq_true (h.kept_ne_empty t ht)]

/-! ### The text of an error -/

/-- An error that keeps texts can always be written. -/
theorem text_keeping (ownName : Option String) (kept : List String) (detail : String) :
    (keeping ownName kept detail).text =
      .ok (Text.strip (" ".intercalate (kept ++ [detail]))) :=
  calc (keeping ownName kept detail).text
    _ = (Value.joinedTexts " " (kept.map .text ++ [.text detail])).map Text.strip := rfl
    _ = (Value.joinedTexts " " ((kept ++ [detail]).map .text)).map Text.strip := by
      rw [List.map_append, List.map_singleton]
    _ = .ok (Text.strip (" ".intercalate (kept ++ [detail]))) := by
      rw [Value.joinedTexts_text]
      rfl

/-- An error that is made from one text has it as its detail, also if the text is empty. -/
theorem made_from_text (ownName : Option String) (m : String) :
    made [.text m] "" ownName none = keeping ownName [] m := by
  by_cases hEmpty : m = ""
  · -- an empty text is dropped, and the detail that is left is empty too
    subst hEmpty
    exact made_of_nothing rfl
  · refine made_of_texts ((argumentTexts_text [m]).trans ?_)
    rw [List.filter_singleton, decide_eq_true hEmpty]
    rfl

/-- An error made from one text has this text, stripped. -/
theorem text_made_from_text (ownName : Option String) (m : String) :
    (made [.text m] "" ownName none).text = .ok (Text.strip m) := by
  rw [made_from_text, text_keeping, List.nil_append, String.intercalate_singleton]

/-- A statement error is a base error made from its message, but for the class. -/
theorem statement_from_text (ownName : Option String) (m : String) :
    statement (.text m) ownName none =
      { made [.text m] "" ownName none with errorClass := .statement } := rfl

theorem text_statement (ownName : Option String) (m : String) :
    (statement (.text m) ownName none).text = .ok (Text.strip m) := by
  rw [statement_from_text, ← text_made_from_text ownName m]
  rfl

/-! ### What an error keeps -/

/-- What an error of the base class, or of a subclass that keeps its constructor, keeps of the
values and the detail that it was made from. -/
structure KeepsItsTexts (args : List Value) (detail : String)
    (ownName classDetail : Option String) : Prop where
  /-- With a detail, all the texts are arguments. -/
  of_detail  : detail ≠ "" →
    made args detail ownName classDetail = keeping ownName (argumentTexts args) detail
  /-- Without one, the first text is the detail. -/
  of_texts   : detail = "" → ∀ first rest, argumentTexts args = first :: rest →
    made args detail ownName classDetail = keeping ownName rest first
  /-- Without any text, the detail is that of the class. -/
  of_nothing : detail = "" → argumentTexts args = [] →
    made args detail ownName classDetail = keeping ownName [] (classDetail.getD "")
  /-- The text is made of the arguments and the detail, and there always is one. -/
  written    : ∃ kept d, made args detail ownName classDetail = keeping ownName kept d ∧
    (made args detail ownName classDetail).text =
      .ok (Text.strip (" ".intercalate (kept ++ [d])))
  /-- The error made again from its arguments and its detail is the same error, with the same
  text and the same short form, exactly if it is in normal form. -/
  again      : ∀ kept d, made args detail ownName classDetail = keeping ownName kept d →
    (general (kept.map .text) (.text d) ownName (classDetail.map .text) =
      made args detail ownName classDetail ↔ InNormalForm classDetail kept d)
  /-- So it is unless an argument of another type counts as true and has no text. -/
  rebuilt    : (∀ o, .object o ∈ args → o.isTrue = true → o.plain ≠ "") →
    general (made args detail ownName classDetail).args
      (made args detail ownName classDetail).detail ownName (classDetail.map .text) =
        made args detail ownName classDetail
  /-- An error that is made from the text has the same text. -/
  wrapped    : ∀ s, (made args detail ownName classDetail).text = .ok s →
    (made [.text s] "" none none).text = .ok s ∧
      (statement (.text s) none none).text = .ok s

/-- **An error keeps the texts of its arguments.** Making it again changes nothing exactly if it is
in normal form, as it is unless an argument of another type counts as true and has no text; and
wrapping its text never changes the text. A statement error that is made from a text keeps it as its
detail. -/
theorem normal_form_is_stable :
    (∀ args detail ownName classDetail, KeepsItsTexts args detail ownName classDetail) ∧
      ∀ ownName m,
        statement (.text m) ownName none = ⟨.statement, ownName, [], .text m⟩ ∧
          (statement (.text m) ownName none).text = .ok (Text.strip m) := by
  refine ⟨fun args detail ownName classDetail => ?_, fun ownName m => ⟨?_, ?_⟩⟩
  · obtain ⟨kept, d, hMade, hForm⟩ := exists_keeping args detail ownName classDetail
    have hText := text_keeping ownName kept d
    rw [← hMade] at hText
    exact {
      of_detail := made_of_detail
      of_texts := by
        rintro rfl first rest hArgs
        exact made_of_texts hArgs
      of_nothing := by
        rintro rfl hArgs
        exact made_of_nothing hArgs
      written := ⟨kept, d, hMade, hText⟩
      again := by
        intro kept d hKeeping
        rw [hKeeping]
        exact rebuilt_iff
      rebuilt := by
        intro hObjects
        rw [hMade]
        exact rebuilt_iff.mpr (hForm (argumentTexts_ne_empty hObjects))
      wrapped := by
        intro s hs
        -- the text has no blanks at its ends any more
        have hStrip : Text.strip s = s := by
          cases hs.symm.trans hText
          exact Text.strip_strip _
        rw [text_made_from_text, text_statement, hStrip]
        exact ⟨rfl, rfl⟩ }
  · rw [statement_from_text, made_from_text]
    rfl
  · exact text_statement ownName m

example : made [.null, .text "context", .int 0, .text "wrong "] "" none (some "class") =
    keeping none ["wrong "] "context" := rfl

/-- A value that counts as true and has no text, like an error without a message. -/
def silent : Object where
  identity := 0
  typeName := "AssertionError"
  isTrue := true
  number? := none
  plain := ""
  formatted := ""
  shown := "AssertionError()"

/-- An error that is another one when it is made again: the text that it kept as an argument has
become its detail. -/
theorem text_moves_up :
    let error := made [.object silent, .text "while building"] "" none none
    error = keeping none ["while building"] "" ∧
      general error.args error.detail none none = keeping none [] "while building" ∧
      error.shown = "FluentSQLError" ∧
      (general error.args error.detail none none).shown = "FluentSQLError - while building" ∧
      general error.args error.detail none none ≠ error := by
  refine ⟨rfl, rfl, rfl, rfl, fun hSame => ?_⟩
  have hDetail := congrArg Problem.detail hSame
  exact absurd (Value.text.inj hDetail) (by decide)

end Problem

end SqlCompose
