import Mathlib.Data.List.Forall2
import SqlCompose.Json.Writer
import SqlCompose.Proofs.Json.Numbers

/-!
# SqlCompose — what is written as JSON is read back

Null, truth values, integers, texts, rows, and tables with texts as keys are
data: JSON has a form for each of them. Data is always written, and a reader
gets from the text exactly the data that was written. The reader is not the
writer backwards: it knows nothing of the layout that the writer chooses, only
the grammar (`SqlCompose.Proofs.Json.Reader`).

Each part of a text is looked at with any other text behind it. `IsTextOf v cs`
says that the characters are read as the value wherever they stand in front of
something that does not continue a number.

* `readString?_string`: strings are read back, whatever characters they have;
* `isTextOf_number`: so are numbers, with what the reader makes of them;
* `write_data`: data is written, and its text is a text of it;
* `read?_write`: the text as a whole denotes the data.
-/

namespace SqlCompose

namespace Json

/-! ## Escapes -/

/-- A hexadecimal digit stands for what it was made of. -/
theorem hexValue?_hexDigit (n : Nat) : hexValue? (Text.hexDigit n) = some (n % 16) := by
  have hAll : ∀ d : Fin 16, hexValue? (Nat.digitChar d) = some d.val := by decide
  exact hAll ⟨n % 16, Nat.mod_lt n (by omega)⟩

/-- The digits of a code denote the code, as far as there are enough of them. -/
theorem hexNumber?_hexDigits (width n : Nat) :
    hexNumber? (Text.hexDigits width n) = some (n % Nat.pow 16 width) := by
  induction width generalizing n with
  | zero => simp [Text.hexDigits, hexNumber?, Nat.mod_one]
  | succ width ih =>
    -- the digits in front are those of the code without its last digit
    have hFront := ih (n / 16)
    unfold hexNumber? at hFront ⊢
    rw [Text.hexDigits, List.foldlM_append, hFront]
    have hValue : 16 * (n / 16 % Nat.pow 16 width) + n % 16 = n % Nat.pow 16 (width + 1) := by
      show _ = n % (Nat.pow 16 width * 16)
      rw [Nat.mul_comm (Nat.pow 16 width), Nat.mod_mul]
      omega
    simpa [hexValue?_hexDigit] using hValue

/-- An escape by code is read as the code. -/
theorem readCodes?_unitEscape {n : Nat} (h : n < 0x10000) (rest : List Char) :
    readCodes? (unitEscape n ++ rest) =
      (readCodes? rest).map fun read => (n :: read.1, read.2) := by
  have hDigits := hexNumber?_hexDigits 4 n
  rw [Nat.mod_eq_of_lt (show n < Nat.pow 16 4 from h)] at hDigits
  show readCodes? ('\\' :: 'u' :: (Text.hexDigits 4 n ++ rest)) = _
  simp only [Text.hexDigits, List.nil_append, List.cons_append] at hDigits ⊢
  rw [readCodes?, hDigits]
  cases readCodes? rest <;> rfl

/-- A character that stands for itself is read as its code. -/
theorem readCodes?_plain {c : Char} (hQuote : c ≠ '\x22') (hSlash : c ≠ '\\')
    (hCode : ¬ c.toNat < 0x20) (rest : List Char) :
    readCodes? (c :: rest) = (readCodes? rest).map fun read => (c.toNat :: read.1, read.2) := by
  have hAllowed : ¬ (c = '\\' ∨ c.toNat < 0x20) := by
    rintro (h | h)
    · exact hSlash h
    · exact hCode h
  rw [readCodes?]
  · rw [if_neg hAllowed]
    cases readCodes? rest <;> rfl
  · intro h
    exact absurd h hQuote
  · intro _ _ _ _ _ h
    exact absurd h hSlash
  · intro _ _ h
    exact absurd h hSlash

/-- The codes that a character is written with. -/
def codesOf (c : Char) : List Nat :=
  if c.toNat < 0x10000 then [c.toNat]
  else [0xD800 + (c.toNat - 0x10000) / 0x400, 0xDC00 + (c.toNat - 0x10000) % 0x400]

/-- No code of a character is larger than the largest of Unicode. -/
theorem toNat_lt (c : Char) : c.toNat < 0x110000 := by
  rcases c.valid with h | h
  · exact Nat.lt_trans h (by decide)
  · exact h.2

/-- The escape of a character by its code is read as its codes. -/
theorem readCodes?_codeEscape (c : Char) (rest : List Char) :
    readCodes? (codeEscape c.toNat ++ rest) =
      (readCodes? rest).map fun read => (codesOf c ++ read.1, read.2) := by
  have hLimit := toNat_lt c
  unfold codeEscape codesOf
  split
  · rename_i hPlane
    exact readCodes?_unitEscape hPlane rest
  · -- two halves, each of sixteen bits
    rw [List.append_assoc, readCodes?_unitEscape (by omega), readCodes?_unitEscape (by omega)]
    cases readCodes? rest <;> rfl

/-- A character of a string is read as its codes. -/
theorem readCodes?_escapedChar (c : Char) (rest : List Char) :
    readCodes? (escapedChar c ++ rest) =
      (readCodes? rest).map fun read => (codesOf c ++ read.1, read.2) := by
  have hShort : ∀ e : Char, shortEscape? e = some c → e ≠ 'u' → c.toNat < 0x10000 →
      readCodes? ('\\' :: e :: rest) =
        (readCodes? rest).map fun read => (codesOf c ++ read.1, read.2) := by
    intro e hEscape hCode hPlane
    rw [readCodes?]
    · rw [hEscape, codesOf, if_pos hPlane]
      cases readCodes? rest <;> rfl
    · intro _ _ _ _ _ h
      exact absurd h hCode
  unfold escapedChar
  -- the seven characters with an escape of their own
  iterate 7
    split
    · subst c
      exact hShort _ rfl (by decide) (by decide)
  split
  · rename_i hQuote hSlash _ _ _ _ _ hRange
    have hPlane : c.toNat < 0x10000 := by omega
    rw [codesOf, if_pos hPlane]
    exact readCodes?_plain hQuote hSlash (by omega) rest
  · exact readCodes?_codeEscape c rest

/-- The characters between the quotes are read as the codes of all of them. -/
theorem readCodes?_escaped (cs rest : List Char) :
    readCodes? (escaped cs ++ '\x22' :: rest) = some (cs.flatMap codesOf, rest) := by
  induction cs with
  | nil => rfl
  | cons c cs ih =>
    rw [escaped, List.flatMap_cons, List.append_assoc, readCodes?_escapedChar]
    rw [escaped] at ih
    rw [ih]
    rfl

/-- The codes of a character are put together to the character. -/
theorem pairUp?_codesOf (c : Char) (codes : List Nat) :
    pairUp? (codesOf c ++ codes) = (pairUp? codes).map (c :: ·) := by
  have hLimit := toNat_lt c
  unfold codesOf
  split
  · -- a character of the basic plane is none of the halves
    have hValid : c.toNat.isValidChar := c.valid
    rw [List.singleton_append, pairUp?.eq_def]
    simp only [if_pos hValid, Char.ofNat_toNat]
  · rename_i hPlane
    have hInvalid : ¬ (0xD800 + (c.toNat - 0x10000) / 0x400).isValidChar := by
      unfold Nat.isValidChar
      omega
    have hPair : isPair (0xD800 + (c.toNat - 0x10000) / 0x400)
        (0xDC00 + (c.toNat - 0x10000) % 0x400) = true := by
      simp only [isPair, Bool.and_eq_true, decide_eq_true_eq]
      omega
    have hCode : pairCode (0xD800 + (c.toNat - 0x10000) / 0x400)
        (0xDC00 + (c.toNat - 0x10000) % 0x400) = c.toNat := by
      unfold pairCode
      omega
    show pairUp? (_ :: _ :: codes) = _
    rw [pairUp?, if_neg hInvalid]
    simp only [hPair, if_true, hCode, Char.ofNat_toNat]

/-- The code units of characters are paired up to the characters again. -/
theorem pairUp?_codes (cs : List Char) : pairUp? (cs.flatMap codesOf) = some cs := by
  induction cs with
  | nil => rfl
  | cons c cs ih => rw [List.flatMap_cons, pairUp?_codesOf, ih]; rfl

/-- **Strings are read back**, whatever characters they are made of. -/
theorem readString?_string (s : String) (rest : List Char) :
    readString? ((string s).toList ++ rest) = some (s, rest) := by
  have hCodes := readCodes?_escaped s.toList rest
  rw [string, String.toList_ofList]
  show readString? ('\x22' :: ((escaped s.toList ++ ['\x22']) ++ rest)) = _
  rw [List.append_assoc, List.singleton_append, readString?, hCodes]
  simp [pairUp?_codes]

/-! ## Values -/

/-- A text that begins like a value: with a character that is neither blank nor a closing
bracket or brace. -/
def Opens (cs : List Char) : Prop :=
  ∃ c rest, cs = c :: rest ∧ isBlank c = false ∧ c ≠ ']' ∧ c ≠ '\x7d'

/-- A text that is read as a value, as a part of any text in which no number is continued behind
it. Of two steps that follow each other at least one takes a character, which bounds the steps. -/
structure IsTextOf (v : Value) (cs : List Char) : Prop where
  opens : Opens cs
  reads : ∀ steps rest, 2 * cs.length ≤ steps + 1 → endsNumber rest = true →
    readValue? steps (cs ++ rest) = some (v, rest)

/-- In front of a text of a value there is nothing to skip. -/
theorem skipBlanks_of_opens {cs : List Char} (h : Opens cs) (rest : List Char) :
    skipBlanks (cs ++ rest) = cs ++ rest := by
  obtain ⟨c, tail, rfl, hBlank, -⟩ := h
  exact List.dropWhile_cons_of_neg (by simp [hBlank])

/-- What is neither a row nor a table is read as an atom. -/
theorem readValue?_atom {c : Char} (hBlank : isBlank c = false)
    (hBrackets : c ≠ '[' ∧ c ≠ ']' ∧ c ≠ '\x7b' ∧ c ≠ '\x7d') (cs : List Char) {steps : Nat}
    (hSteps : 2 * (c :: cs).length ≤ steps + 1) (rest : List Char) :
    readValue? steps (c :: cs ++ rest) = readAtom? (c :: cs ++ rest) := by
  have hOpens : Opens (c :: cs) := ⟨c, cs, rfl, hBlank, hBrackets.2.1, hBrackets.2.2.2⟩
  rw [List.length_cons] at hSteps
  obtain ⟨steps, rfl⟩ := Nat.exists_eq_add_one_of_ne_zero (show steps ≠ 0 by omega)
  rw [readValue?, skipBlanks_of_opens hOpens, List.cons_append]
  split
  · rename_i h
    exact absurd (List.cons.inj h).1 hBrackets.1
  · rename_i h
    exact absurd (List.cons.inj h).1 hBrackets.2.2.1
  · rfl

/-- What is read as a value without brackets is a text of it, whatever follows. -/
theorem isTextOf_atom {v : Value} {c : Char} {cs : List Char} (hBlank : isBlank c = false)
    (hBrackets : c ≠ '[' ∧ c ≠ ']' ∧ c ≠ '\x7b' ∧ c ≠ '\x7d')
    (hReads : ∀ rest, endsNumber rest = true → readAtom? (c :: cs ++ rest) = some (v, rest)) :
    IsTextOf v (c :: cs) :=
  ⟨⟨c, cs, rfl, hBlank, hBrackets.2.1, hBrackets.2.2.2⟩, fun _ rest hSteps hRest =>
    (readValue?_atom hBlank hBrackets cs hSteps rest).trans (hReads rest hRest)⟩

theorem isTextOf_null : IsTextOf .null "null".toList :=
  isTextOf_atom (by decide) (by decide) fun _ _ => rfl

theorem isTextOf_bool (b : Bool) : IsTextOf (.bool b) (truth b).toList := by
  cases b with
  | true => exact isTextOf_atom (by decide) (by decide) fun _ _ => rfl
  | false => exact isTextOf_atom (by decide) (by decide) fun _ _ => rfl

/-- A text is read back from its string, with all that is escaped there. -/
theorem isTextOf_string (s : String) : IsTextOf (.text s) (string s).toList := by
  have hText : (string s).toList = '\x22' :: (escaped s.toList ++ ['\x22']) := by
    rw [string, String.toList_ofList]
    rfl
  rw [hText]
  refine isTextOf_atom (by decide) (by decide) fun rest _ => ?_
  have hReads := readString?_string s rest
  rw [hText] at hReads
  rw [readAtom?, hReads, if_pos (by rfl)]
  rfl

/-- What begins with a digit or a sign is no word. -/
theorem readWord?_number {c : Char} {cs : List Char} (h : c = '-' ∨ c.isDigit = true) :
    readWord? (c :: cs) = none := by
  have hLetters : 'n' ≠ c ∧ 't' ≠ c ∧ 'f' ≠ c := by
    refine ⟨?_, ?_, ?_⟩ <;> rintro rfl <;> revert h <;> decide
  simp [readWord?, words, hLetters]

/-- A number is a text of what the reader makes of it. -/
theorem isTextOf_number (negative : Bool) (p : NumberParts) :
    IsTextOf (p.value negative) (p.signedText negative) := by
  have hReads : ∀ rest, endsNumber rest = true →
      readNumber? (p.signedText negative ++ rest) = some (p.value negative, rest) :=
    fun _ hRest => readNumber?_parts p negative hRest
  -- the text begins with the sign or with a digit
  obtain ⟨c, cs, hText, hFirst⟩ : ∃ c cs, p.signedText negative = c :: cs ∧
      (c = '-' ∨ c.isDigit = true) := by
    cases negative with
    | true => exact ⟨'-', p.text, rfl, .inl rfl⟩
    | false =>
      obtain ⟨c, cs, hText, hDigit⟩ := p.exists_text
      exact ⟨c, cs, hText, .inr hDigit⟩
  have hPlain : isBlank c = false ∧
      (c ≠ '[' ∧ c ≠ ']' ∧ c ≠ '\x7b' ∧ c ≠ '\x7d') ∧ c ≠ '\x22' := by
    refine ⟨?_, ⟨?_, ?_, ?_, ?_⟩, ?_⟩
    · cases hBlank : isBlank c with
      | false => rfl
      | true =>
        simp only [isBlank, Bool.or_eq_true, beq_iff_eq] at hBlank
        rcases hBlank with ((rfl | rfl) | rfl) | rfl <;> exact absurd hFirst (by decide)
    all_goals
      rintro rfl
      exact absurd hFirst (by decide)
  rw [hText] at hReads ⊢
  refine isTextOf_atom hPlain.1 hPlain.2.1 fun rest hRest => ?_
  rw [List.cons_append, readAtom?, List.head?_cons, if_neg (by simpa using hPlain.2.2),
    readWord?_number hFirst, Option.orElse_none]
  exact hReads rest hRest

/-- An integer is read back, whatever its size. -/
theorem isTextOf_int (n : Int) : IsTextOf (.int n) (toString n).toList := by
  have hNumber := isTextOf_number (decide (n < 0)) (.ofNat n.natAbs)
  rwa [value_ofNat, ← toList_toString] at hNumber

/-! ## Rows and tables -/

/-- A blank in front of a value is passed over. -/
theorem readValue?_blank (steps : Nat) (cs : List Char) :
    readValue? steps (' ' :: cs) = readValue? steps cs := by
  cases steps with
  | zero => rfl
  | succ steps =>
    rw [readValue?, readValue?]
    rfl

/-- A blank in front of the items of an array is skipped. -/
theorem readItems?_blank (steps : Nat) (cs : List Char) :
    readItems? steps (' ' :: cs) = readItems? steps cs := by
  cases steps with
  | zero => rfl
  | succ steps => rw [readItems?, readItems?, readValue?_blank]

/-- So is one in front of the members of an object. -/
theorem readMembers?_blank (steps : Nat) (cs : List Char) :
    readMembers? steps (' ' :: cs) = readMembers? steps cs := by
  cases steps with
  | zero => rfl
  | succ steps =>
    rw [readMembers?, readMembers?]
    rfl

/-- The characters of parts that stand behind each other with a comma between them. -/
def listed (parts : List String) : List Char := (", ".intercalate parts).toList

theorem listed_singleton (part : String) : listed [part] = part.toList := by
  rw [listed, String.intercalate_singleton]

/-- The parts of a list stand behind a comma and a blank each, but for the first. -/
theorem listed_cons (part next : String) (parts : List String) :
    listed (part :: next :: parts) = part.toList ++ ',' :: ' ' :: listed (next :: parts) := by
  rw [listed, String.intercalate_cons_cons, String.toList_append, String.toList_append,
    List.append_assoc]
  rfl

/-- The parts are the texts of the values. -/
abbrev AreTextsOf (values : List Value) (parts : List String) : Prop :=
  List.Forall₂ (fun v part => IsTextOf v part.toList) values parts

/-- The parts are the entries: a name as a string, and behind a colon the text of the value. -/
abbrev AreEntriesOf (entries : List (Value × Value)) (parts : List String) : Prop :=
  List.Forall₂ (fun entry part => ∃ name written, entry.1 = .text name ∧
    part = string name ++ ": " ++ written ∧ IsTextOf entry.2 written.toList) entries parts

theorem length_pos_of_opens {cs : List Char} (h : Opens cs) : 0 < cs.length := by
  obtain ⟨c, rest, rfl, -⟩ := h
  exact Nat.succ_pos _

/-- An element of a row that is followed by another one. -/
theorem readItems?_comma {v : Value} {part : String} (hPart : IsTextOf v part.toList)
    (next : String) (parts : List String) {steps : Nat} {tail : List Char}
    (hSteps : 2 * (listed (part :: next :: parts)).length ≤ steps + 1) :
    readItems? (steps + 1) (listed (part :: next :: parts) ++ tail) =
      (readItems? steps (listed (next :: parts) ++ tail)).map
        fun read => (v :: read.1, read.2) := by
  rw [listed_cons, List.length_append] at hSteps
  rw [listed_cons, List.append_assoc, List.cons_append, List.cons_append, readItems?,
    hPart.reads steps _ (by omega) rfl]
  show (readItems? steps (' ' :: _)).map _ = _
  rw [readItems?_blank]

/-- The elements of a row are read up to the bracket. -/
theorem readItems?_listed {values : List Value} {parts : List String}
    (h : AreTextsOf values parts) (hSome : values ≠ []) (steps : Nat) (rest : List Char)
    (hSteps : 2 * (listed parts).length ≤ steps) :
    readItems? steps (listed parts ++ ']' :: rest) = some (values, rest) := by
  induction h generalizing steps with
  | nil => exact absurd rfl hSome
  | @cons v part values parts hPart hParts ih =>
    have hLength := length_pos_of_opens hPart.opens
    cases hParts with
    | nil =>
      -- the last element, with the bracket behind it
      rw [listed_singleton] at hSteps ⊢
      obtain ⟨steps, rfl⟩ := Nat.exists_eq_add_one_of_ne_zero (show steps ≠ 0 by omega)
      rw [readItems?, hPart.reads steps (']' :: rest) (by omega) rfl]
      rfl
    | @cons next other values parts hNext hParts =>
      have hMore := hSteps
      rw [listed_cons, List.length_append, List.length_cons, List.length_cons] at hMore
      obtain ⟨steps, rfl⟩ := Nat.exists_eq_add_one_of_ne_zero (show steps ≠ 0 by omega)
      rw [readItems?_comma hPart other parts (by omega), ih (by simp) steps (by omega)]
      rfl

/-- A member of a table: the name and the colon are read, then the value and what follows it. -/
theorem readMembers?_named (name written : String) (steps : Nat) (tail : List Char) :
    readMembers? (steps + 1) ((string name ++ ": " ++ written).toList ++ tail) =
      match readValue? steps (written.toList ++ tail) with
      | none => none
      | some (v, rest) =>
        match skipBlanks rest with
        | ',' :: rest =>
          (readMembers? steps rest).map fun read => ((.text name, v) :: read.1, read.2)
        | '\x7d' :: rest => some ([(.text name, v)], rest)
        | _ => none := by
  have hName := readString?_string name (':' :: ' ' :: (written.toList ++ tail))
  rw [← readValue?_blank, String.toList_append, String.toList_append, List.append_assoc,
    List.append_assoc, show ": ".toList = [':', ' '] from rfl, List.cons_append, List.cons_append,
    List.nil_append, readMembers?, skipBlanks_of_opens (isTextOf_string name).opens, hName]
  rfl

/-- A member of a table that is followed by another one. -/
theorem readMembers?_comma (name : String) {v : Value} {written : String}
    (hText : IsTextOf v written.toList) (next : String) (parts : List String) {steps : Nat}
    {tail : List Char}
    (hSteps : 2 * (listed ((string name ++ ": " ++ written) :: next :: parts)).length ≤ steps + 1) :
    readMembers? (steps + 1)
        (listed ((string name ++ ": " ++ written) :: next :: parts) ++ tail) =
      (readMembers? steps (listed (next :: parts) ++ tail)).map fun read =>
        ((.text name, v) :: read.1, read.2) := by
  rw [listed_cons, List.length_append, String.toList_append, List.length_append] at hSteps
  rw [listed_cons, List.append_assoc, List.cons_append, List.cons_append, readMembers?_named,
    hText.reads steps _ (by omega) rfl]
  show (readMembers? steps (' ' :: _)).map _ = _
  rw [readMembers?_blank]

/-- The members of a table are read up to the brace. -/
theorem readMembers?_listed {entries : List (Value × Value)} {parts : List String}
    (h : AreEntriesOf entries parts) (hSome : entries ≠ []) (steps : Nat) (rest : List Char)
    (hSteps : 2 * (listed parts).length ≤ steps) :
    readMembers? steps (listed parts ++ '\x7d' :: rest) = some (entries, rest) := by
  induction h generalizing steps with
  | nil => exact absurd rfl hSome
  | @cons entry part entries parts hPart hParts ih =>
    obtain ⟨name, v⟩ := entry
    obtain ⟨name, written, rfl, rfl, hText⟩ := hPart
    have hLength := length_pos_of_opens hText.opens
    cases hParts with
    | nil =>
      rw [listed_singleton] at hSteps ⊢
      rw [String.toList_append, List.length_append] at hSteps
      obtain ⟨steps, rfl⟩ := Nat.exists_eq_add_one_of_ne_zero (show steps ≠ 0 by omega)
      rw [readMembers?_named, hText.reads steps ('\x7d' :: rest) (by omega) rfl]
      rfl
    | @cons next other entries parts hNext hParts =>
      have hMore := hSteps
      rw [listed_cons, List.length_append, List.length_cons, List.length_cons] at hMore
      obtain ⟨steps, rfl⟩ := Nat.exists_eq_add_one_of_ne_zero (show steps ≠ 0 by omega)
      rw [readMembers?_comma name hText other parts (by omega), ih (by simp) steps (by omega)]
      rfl

/-- A list opens as its first part does. -/
theorem opens_listed {part : String} (h : Opens part.toList) (parts : List String) :
    Opens (listed (part :: parts)) := by
  obtain ⟨c, cs, hPart, hOpens⟩ := h
  cases parts with
  | nil => exact ⟨c, cs, by rw [listed_singleton, hPart], hOpens⟩
  | cons next parts => exact ⟨c, _, by rw [listed_cons, hPart, List.cons_append], hOpens⟩

theorem toList_array (parts : List String) :
    (array parts).toList = '[' :: (listed parts ++ [']']) := by
  rw [array, String.toList_append, String.toList_append, List.append_assoc]
  rfl

theorem toList_object (parts : List String) :
    (object parts).toList = '\x7b' :: (listed parts ++ ['\x7d']) := by
  rw [object, String.toList_append, String.toList_append, List.append_assoc]
  rfl

/-- Parts that open like a value do not close the bracket at once: they are read as elements. -/
theorem readValue?_array {parts : List String} (h : Opens (listed parts)) (steps : Nat)
    (rest : List Char) :
    readValue? (steps + 1) ((array parts).toList ++ rest) =
      (readItems? steps (listed parts ++ ']' :: rest)).map fun read => (.list read.1, read.2) := by
  have hBlanks := skipBlanks_of_opens h (']' :: rest)
  obtain ⟨c, cs, hCons, -, hBracket, -⟩ := h
  rw [hCons, List.cons_append] at hBlanks
  rw [toList_array, List.cons_append, List.append_assoc, List.singleton_append, hCons,
    List.cons_append, readValue?_bracket hBlanks hBracket]

/-- They do not close the brace either, and are read as members. -/
theorem readValue?_object {parts : List String} (h : Opens (listed parts)) (steps : Nat)
    (rest : List Char) :
    readValue? (steps + 1) ((object parts).toList ++ rest) =
      (readMembers? steps (listed parts ++ '\x7d' :: rest)).map fun read =>
        (.dict read.1, read.2) := by
  have hBlanks := skipBlanks_of_opens h ('\x7d' :: rest)
  obtain ⟨c, cs, hCons, -, -, hBrace⟩ := h
  rw [hCons, List.cons_append] at hBlanks
  rw [toList_object, List.cons_append, List.append_assoc, List.singleton_append, hCons,
    List.cons_append, readValue?_brace hBlanks hBrace]

theorem opens_array (parts : List String) : Opens (array parts).toList :=
  ⟨'[', _, toList_array parts, rfl, by decide⟩

theorem opens_object (parts : List String) : Opens (object parts).toList :=
  ⟨'\x7b', _, toList_object parts, rfl, by decide⟩

/-- A member opens like a value, with the quote in front of its name. -/
theorem opens_member (name written : String) (parts : List String) :
    Opens (listed ((string name ++ ": " ++ written) :: parts)) := by
  obtain ⟨c, cs, hString, hQuote⟩ := (isTextOf_string name).opens
  refine opens_listed ⟨c, cs ++ (": " ++ written).toList, ?_, hQuote⟩ parts
  rw [String.append_assoc, String.toList_append, hString, List.cons_append]

/-- **An array is read back** if the texts of its values are. -/
theorem isTextOf_array {values : List Value} {parts : List String}
    (h : AreTextsOf values parts) : IsTextOf (.list values) (array parts).toList := by
  refine ⟨opens_array parts, fun steps rest hSteps _ => ?_⟩
  rw [toList_array, List.length_cons, List.length_append, List.length_singleton] at hSteps
  obtain ⟨steps, rfl⟩ := Nat.exists_eq_add_one_of_ne_zero (show steps ≠ 0 by omega)
  cases h with
  | nil => rfl
  | @cons v part values parts hPart hParts =>
    rw [readValue?_array (opens_listed hPart.opens parts),
      readItems?_listed (.cons hPart hParts) (by simp) steps rest (by omega)]
    rfl

/-- **An object is read back** if the texts of its entries are. -/
theorem isTextOf_object {entries : List (Value × Value)} {parts : List String}
    (h : AreEntriesOf entries parts) : IsTextOf (.dict entries) (object parts).toList := by
  refine ⟨opens_object parts, fun steps rest hSteps _ => ?_⟩
  rw [toList_object, List.length_cons, List.length_append, List.length_singleton] at hSteps
  obtain ⟨steps, rfl⟩ := Nat.exists_eq_add_one_of_ne_zero (show steps ≠ 0 by omega)
  cases h with
  | nil => rfl
  | @cons entry part entries parts hPart hParts =>
    have hMembers := readMembers?_listed (.cons hPart hParts) (by simp) steps rest (by omega)
    obtain ⟨name, written, -, rfl, -⟩ := hPart
    rw [readValue?_object (opens_member name written parts), hMembers]
    rfl

end Json

/-! ## Data -/

namespace Value

mutual

/-- A value that JSON has a form for: null, a truth value, an integer, a text, a row or a table of
such values, with texts as the keys of the table. -/
def isData : Value → Bool
  | .null | .bool _ | .int _ | .text _ => true
  | .list items => areData items
  | .dict entries => areDataEntries entries
  | _ => false

def areData : List Value → Bool
  | [] => true
  | v :: rest => isData v && areData rest

def areDataEntries : List (Value × Value) → Bool
  | [] => true
  | (.text _, v) :: rest => isData v && areDataEntries rest
  | _ :: _ => false

end

end Value

namespace Json

mutual

/-- **Data is written**, as a text that is read as the same data. -/
theorem write_data (text : Rendering) : ∀ v : Value, v.isData = true →
    ∃ s, (write text v).result = .ok s ∧ IsTextOf v s.toList
  | .null, _ => ⟨_, rfl, isTextOf_null⟩
  | .bool b, _ => ⟨_, rfl, isTextOf_bool b⟩
  | .int n, _ => ⟨_, rfl, isTextOf_int n⟩
  | .text s, _ => ⟨_, rfl, isTextOf_string s⟩
  | .list items, h => by
    obtain ⟨parts, hParts, hTexts⟩ := writeAll_data text items h
    exact ⟨_, write_list_eq_ok.mpr ⟨parts, hParts, rfl⟩, isTextOf_array hTexts⟩
  | .dict entries, h => by
    obtain ⟨parts, hParts, hTexts⟩ := writeEntries_data text entries h
    exact ⟨_, write_dict_eq_ok.mpr ⟨parts, hParts, rfl⟩, isTextOf_object hTexts⟩

/-- Rows of data can be written, each value with a text of its own. -/
theorem writeAll_data (text : Rendering) : ∀ values : List Value, Value.areData values = true →
    ∃ parts, (writeAll text values).result = .ok parts ∧ AreTextsOf values parts
  | [], _ => ⟨_, rfl, .nil⟩
  | v :: rest, h => by
    rw [Value.areData, Bool.and_eq_true] at h
    obtain ⟨part, hPart, hText⟩ := write_data text v h.1
    obtain ⟨parts, hParts, hTexts⟩ := writeAll_data text rest h.2
    exact ⟨_, writeAll_cons_eq_ok.mpr ⟨part, parts, hPart, hParts, rfl⟩, .cons hText hTexts⟩

/-- So can tables of data. -/
theorem writeEntries_data (text : Rendering) :
    ∀ entries : List (Value × Value), Value.areDataEntries entries = true →
      ∃ parts, (writeEntries text entries).result = .ok parts ∧ AreEntriesOf entries parts
  | [], _ => ⟨_, rfl, .nil⟩
  | (.text name, v) :: rest, h => by
    rw [Value.areDataEntries, Bool.and_eq_true] at h
    obtain ⟨part, hPart, hText⟩ := write_data text v h.1
    obtain ⟨parts, hParts, hTexts⟩ := writeEntries_data text rest h.2
    -- a text is its own key, so only the value and the rest of the table can fail
    exact ⟨_, writeEntries_cons_eq_ok.mpr ⟨name, part, parts, rfl, hPart, hParts, rfl⟩,
      .cons ⟨name, part, rfl, rfl, hText⟩ hTexts⟩

end

/-- A text of a value denotes the value. -/
theorem read?_of_isTextOf {v : Value} {s : String} (h : IsTextOf v s.toList) :
    read? s = some v := by
  have hRead := h.reads (2 * s.length) [] (by rw [String.length_toList]; omega) rfl
  rw [List.append_nil] at hRead
  rw [read?, hRead]
  rfl

/-- **What is written is read back**: the text of data denotes the same data, however deep it is
nested, its members in their order. -/
theorem read?_write (text : Rendering) {v : Value} (h : v.isData = true) :
    ∃ s, (write text v).result = .ok s ∧ read? s = some v := by
  obtain ⟨s, hWritten, hText⟩ := write_data text v h
  exact ⟨s, hWritten, read?_of_isTextOf hText⟩

end Json

end SqlCompose
