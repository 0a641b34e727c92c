import SqlCompose.Json.Writer

/-!
# SqlCompose — JSON is written in visible characters

Whatever is written as JSON, the text has characters from the space to the tilde
only: no line break, no other control character and nothing beyond ASCII. Texts
of the caller's reach it as strings alone, whose every character is escaped
unless it is visible itself; this holds for the names in a table as for the
values, and for the plain form of what JSON has no form for. All the rest is
written by the library: brackets, commas, words and numbers.

* `visible_string`: strings, whatever characters they have;
* `visible_number`: numbers of binary64, infinities included;
* `visible_write`: values, by induction on the value.
-/

namespace SqlCompose

/-! ## Visible characters -/

namespace Text

/-- A character from the space to the tilde. -/
def isVisible (c : Char) : Bool := decide (0x20 ≤ c.toNat) && decide (c.toNat ≤ 0x7E)

/-- Characters from the space to the tilde only. -/
def visible (cs : List Char) : Bool := cs.all isVisible

/-- Visible characters behind one another. -/
theorem visible_append (cs ds : List Char) : visible (cs ++ ds) = (visible cs && visible ds) :=
  List.all_append

theorem visible_cons (c : Char) (cs : List Char) :
    visible (c :: cs) = (isVisible c && visible cs) := List.all_cons

/-- Parts of what is visible are visible. -/
theorem visible_of_subset {cs ds : List Char} (h : visible ds = true) (hSubset : cs ⊆ ds) :
    visible cs = true :=
  List.all_eq_true.mpr fun c hc => List.all_eq_true.mp h c (hSubset hc)

theorem visible_replicate (n : Nat) {c : Char} (h : isVisible c = true) :
    visible (List.replicate n c) = true :=
  List.all_eq_true.mpr fun d hd => by rw [(List.mem_replicate.mp hd).2, h]

/-- A digit in base sixteen is visible. -/
theorem isVisible_hexDigit (n : Nat) : isVisible (hexDigit n) = true := by
  have hAll : ∀ d : Fin 16, isVisible (Nat.digitChar d) = true := by decide
  exact hAll ⟨n % 16, Nat.mod_lt n (by omega)⟩

theorem visible_hexDigits (width n : Nat) : visible (hexDigits width n) = true := by
  induction width generalizing n with
  | zero => rfl
  | succ width ih =>
    rw [hexDigits, visible_append, ih, visible_cons, isVisible_hexDigit]
    rfl

/-- Digits are visible. -/
theorem visible_toDigits (n : Nat) : visible (Nat.toDigits 10 n) = true := by
  refine List.all_eq_true.mpr fun c hc => ?_
  have hDigit : c.isDigit = true := Nat.isDigit_of_mem_toDigits (by omega) (by omega) hc
  rw [Char.isDigit, Bool.and_eq_true, decide_eq_true_eq, decide_eq_true_eq] at hDigit
  rw [isVisible, Bool.and_eq_true, decide_eq_true_eq, decide_eq_true_eq]
  have hLow : '0'.toNat ≤ c.toNat := hDigit.1
  have hHigh : c.toNat ≤ '9'.toNat := hDigit.2
  exact ⟨Nat.le_trans (by decide) hLow, Nat.le_trans hHigh (by decide)⟩

/-- A natural number is written in digits. -/
theorem visible_natRepr (n : Nat) : visible (toString n).toList = true := by
  show visible n.repr.toList = true
  rw [Nat.toList_repr, visible_toDigits]

theorem visible_intRepr (n : Int) : visible (toString n).toList = true := by
  rw [Int.toString_eq_repr, Int.repr_eq_if]
  split
  · exact visible_natRepr _
  · rw [String.toList_append, visible_append, Bool.and_eq_true]
    exact ⟨by decide, visible_natRepr _⟩

end Text

/-! ## Numbers -/

namespace Decimal

open Text

/-- Cutting digits at a point leaves digits, or zeros. -/
theorem visible_split {digits : List Char} (h : visible digits = true) (point : Int) :
    visible (split digits point).1 = true ∧ visible (split digits point).2 = true := by
  unfold split
  split
  · refine ⟨rfl, ?_⟩
    rw [visible_append, visible_replicate _ (by decide), h]
    rfl
  split
  · refine ⟨?_, rfl⟩
    rw [visible_append, visible_replicate _ (by decide), h]
    rfl
  · exact ⟨visible_of_subset h (List.take_subset ..), visible_of_subset h (List.drop_subset ..)⟩

/-- The two parts of a number with a point between them. -/
theorem visible_joinParts {whole fraction : List Char} {ifInteger : String}
    (hWhole : visible whole = true) (hFraction : visible fraction = true)
    (hInteger : visible ifInteger.toList = true) :
    visible (joinParts whole fraction ifInteger).toList = true := by
  unfold joinParts
  split
  · simp only [String.toList_append, String.toList_ofList, visible_append, hWhole, hInteger]
    rfl
  · simp only [String.toList_append, String.toList_ofList, visible_append, hWhole, hFraction]
    rfl

/-- An exponent is a letter, a sign and digits. -/
theorem visible_exponentText (exponent : Int) : visible (exponentText exponent).toList = true := by
  have hSign : visible (if exponent < 0 then "-" else "+").toList = true := by split <;> decide
  have hPad : visible (if (toString exponent.natAbs).length < 2 then "0" else "").toList =
      true := by
    split <;> decide
  simp only [exponentText, String.toList_append, visible_append, hSign, hPad, visible_natRepr]
  rfl

/-- Digits in the natural layout. -/
theorem visible_layoutText {digits : List Char} (h : visible digits = true) (point : Int) :
    visible (layoutText .natural digits point).toList = true := by
  unfold layoutText
  split
  · exact visible_joinParts (visible_split h point).1 (visible_split h point).2 (by decide)
  · rw [scientificText, String.toList_append, visible_append, visible_exponentText,
      visible_joinParts (visible_of_subset h (List.take_subset ..))
        (visible_of_subset h (List.drop_subset ..)) (by decide)]
    rfl

end Decimal

namespace Json

open Text

/-- The text of a number, and the bare words of what has no digits. -/
theorem visible_number (x : Binary64) : visible (number x).toList = true := by
  unfold number
  split
  · decide
  split
  · split <;> decide
  · rename_i hNumber hFinite
    have hDigits : visible (if x.isZero then "0.0" else
        Decimal.layoutText .natural (Decimal.shortest x).digits
          (Decimal.shortest x).point).toList = true := by
      split
      · decide
      · exact Decimal.visible_layoutText (visible_toDigits _) _
    have hSign : visible (if x.isNegative then "-" else "").toList = true := by split <;> decide
    rw [Binary64.text, Binary64.signedText, if_neg hNumber, if_neg hFinite, String.toList_append,
      visible_append, hSign, Bool.true_and]
    exact hDigits

/-! ## Strings -/

/-- An escaped code unit is a backslash, a letter and four digits. -/
theorem visible_codeEscape (n : Nat) : visible (codeEscape n) = true := by
  have hUnit : ∀ m, visible (unitEscape m) = true := by
    intro m
    rw [unitEscape, visible_append, visible_hexDigits]
    rfl
  unfold codeEscape
  split
  · exact hUnit n
  · rw [visible_append, hUnit, hUnit]
    rfl

/-- A character of a string is written as it is only if it is visible. -/
theorem visible_escapedChar (c : Char) : visible (escapedChar c) = true := by
  unfold escapedChar
  iterate 7
    split
    · decide
  split
  · rename_i hRange
    rw [visible_cons, isVisible, decide_eq_true hRange.1, decide_eq_true hRange.2]
    rfl
  · exact visible_codeEscape _

/-- **Strings are visible**, whatever characters they have. -/
theorem visible_string (s : String) : visible (string s).toList = true := by
  have hEscaped : visible (escaped s.toList) = true := by
    rw [escaped, visible, List.all_flatMap, List.all_eq_true]
    exact fun c _ => visible_escapedChar c
  rw [string, String.toList_ofList, visible_append, visible_cons, hEscaped]
  rfl

/-! ## Values -/

/-- Parts with commas between them. -/
theorem visible_intercalate {parts : List String} (h : ∀ part ∈ parts, visible part.toList = true) :
    visible (", ".intercalate parts).toList = true := by
  induction parts with
  | nil => rfl
  | cons part parts ih =>
    have hRest := ih fun other hOther => h other (List.mem_cons_of_mem _ hOther)
    cases parts with
    | nil => exact h part (List.mem_cons_self ..)
    | cons next parts =>
      rw [String.intercalate_cons_cons, String.toList_append, String.toList_append,
        visible_append, visible_append, h part (List.mem_cons_self ..), hRest]
      rfl

/-- An array of visible parts is visible with its brackets and commas. -/
theorem visible_array {parts : List String} (h : ∀ part ∈ parts, visible part.toList = true) :
    visible (array parts).toList = true := by
  rw [array, String.toList_append, String.toList_append, visible_append, visible_append,
    visible_intercalate h]
  rfl

/-- So is an object. -/
theorem visible_object {parts : List String} (h : ∀ part ∈ parts, visible part.toList = true) :
    visible (object parts).toList = true := by
  rw [object, String.toList_append, String.toList_append, visible_append, visible_append,
    visible_intercalate h]
  rfl

mutual

/-- **JSON is visible**: whatever value is written, and whatever the plain forms of its parts are,
the text has visible characters only. -/
theorem visible_write (text : Rendering) : ∀ (v : Value) {s : String},
    (write text v).result = .ok s → visible s.toList = true
  | .null, _, h => by
    obtain rfl := Except.ok.inj h
    decide
  | .bool b, _, h => by
    obtain rfl := Except.ok.inj h
    cases b <;> decide
  | .int n, _, h => by
    obtain rfl := Except.ok.inj h
    exact visible_intRepr n
  | .float x, _, h => by
    obtain rfl := Except.ok.inj h
    exact visible_number x
  | .text s, _, h => by
    obtain rfl := Except.ok.inj h
    exact visible_string s
  | .join kind, _, h => by
    obtain rfl := Except.ok.inj h
    exact visible_string kind.keyword
  | .order direction, _, h => by
    obtain rfl := Except.ok.inj h
    exact visible_string direction.keyword
  | .object o, _, h => by
    obtain rfl := Except.ok.inj h
    rw [ofObject]
    split
    · exact visible_intRepr _
    · exact visible_string o.plain
  | .list items, _, h => by
    obtain ⟨parts, hParts, rfl⟩ := write_list_eq_ok.mp h
    exact visible_array (visible_writeAll text items hParts)
  | .tuple items, _, h => by
    obtain ⟨parts, hParts, rfl⟩ := write_tuple_eq_ok.mp h
    exact visible_array (visible_writeAll text items hParts)
  | .dict entries, _, h => by
    obtain ⟨parts, hParts, rfl⟩ := write_dict_eq_ok.mp h
    exact visible_object (visible_writeEntries text entries hParts)
  | .bytes _, _, h | .set _, _, h | .iterator _, _, h | .statement _, _, h => by
    -- what JSON has no form for is a string of its plain form
    simp only [write] at h
    obtain ⟨written, -, rfl⟩ := Logged.result_bind_pure_eq_ok.mp h
    exact visible_string written

/-- Every element of a row is visible. -/
theorem visible_writeAll (text : Rendering) : ∀ (values : List Value) {parts : List String},
    (writeAll text values).result = .ok parts → ∀ part ∈ parts, visible part.toList = true
  | [], _, h => by
    obtain rfl := Except.ok.inj h
    exact fun _ hPart => absurd hPart List.not_mem_nil
  | v :: rest, _, h => by
    obtain ⟨first, others, hFirst, hOthers, rfl⟩ := writeAll_cons_eq_ok.mp h
    exact List.forall_mem_cons.mpr
      ⟨visible_write text v hFirst, visible_writeAll text rest hOthers⟩

/-- Every entry of a table is visible, its name included. -/
theorem visible_writeEntries (text : Rendering) :
    ∀ (entries : List (Value × Value)) {parts : List String},
      (writeEntries text entries).result = .ok parts → ∀ part ∈ parts, visible part.toList = true
  | [], _, h => by
    obtain rfl := Except.ok.inj h
    exact fun _ hPart => absurd hPart List.not_mem_nil
  | (name, v) :: rest, _, h => by
    obtain ⟨written, first, others, -, hFirst, hOthers, rfl⟩ := writeEntries_cons_eq_ok.mp h
    refine List.forall_mem_cons.mpr ⟨?_, visible_writeEntries text rest hOthers⟩
    simp only [String.toList_append, visible_append, visible_string,
      visible_write text v hFirst]
    rfl

end

end Json

end SqlCompose
