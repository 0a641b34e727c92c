import SqlCompose.Proofs.Json.Reader

/-!
# SqlCompose — numbers in JSON

A number is an integer part, perhaps a fraction, and perhaps an exponent. The
integer part has no leading zeros; behind the point and in the exponent there may
be any digits, as long as there is one. `NumberParts` holds such parts, and
nothing else can be built: whatever writes a number has to show that what it
writes is of this form.

The reader stops behind a part at the first character that cannot continue it,
so what follows a number must not look like a part of it (`endsNumber`).

* `readMagnitude?_parts`, `readNumber?_parts`: numbers are read;
* `toList_toString`, `value_ofNat`: integers are written in this form, whatever their
  size, and their parts stand for them.
-/

namespace SqlCompose

namespace Json

/-! ## What follows -/

/-- What follows digits is none. -/
def endsDigits (rest : List Char) : Bool := rest.head?.all fun c => !c.isDigit

/-- What follows an integer part and its fraction must not be mistaken for a part of them. -/
def endsFraction (rest : List Char) : Bool := rest.head?.all fun c => !c.isDigit && c != '.'

/-- What follows a number must not be mistaken for a part of it. -/
def endsNumber (rest : List Char) : Bool :=
  rest.head?.all fun c => !c.isDigit && c != '.' && c != 'e' && c != 'E'

theorem endsFraction_of_endsNumber {rest : List Char} (h : endsNumber rest = true) :
    endsFraction rest = true := by
  cases rest with
  | nil => rfl
  | cons c rest =>
    simp only [endsNumber, endsFraction, List.head?_cons, Option.all_some, Bool.and_eq_true] at h ⊢
    exact h.1.1

theorem endsDigits_of_endsFraction {rest : List Char} (h : endsFraction rest = true) :
    endsDigits rest = true := by
  cases rest with
  | nil => rfl
  | cons c rest =>
    simp only [endsFraction, endsDigits, List.head?_cons, Option.all_some, Bool.and_eq_true] at h ⊢
    exact h.1

/-! ## Digits -/

/-- A number is written with a digit in front. -/
theorem exists_toDigits (n : Nat) :
    ∃ c digits, Nat.toDigits 10 n = c :: digits ∧ c.isDigit = true := by
  obtain ⟨c, digits, hDigits⟩ :=
    List.exists_cons_of_ne_nil (Nat.toDigits_ne_nil (n := n) (b := 10))
  have hMem : c ∈ Nat.toDigits 10 n := hDigits ▸ List.mem_cons_self ..
  exact ⟨c, digits, hDigits, Nat.isDigit_of_mem_toDigits (by omega) (by omega) hMem⟩

/-- Only zero is written with a zero in front. -/
theorem head?_toDigits (n : Nat) (h : (Nat.toDigits 10 n).head? = some '0') : n = 0 := by
  induction n using Nat.strongRecOn with
  | ind n ih =>
    rw [Nat.toDigits_eq_if (by omega)] at h
    split at h
    · rw [List.head?_cons, Option.some.injEq, Nat.digitChar_eq_zero] at h
      exact h
    · -- what stands in front is the front of the digits of a smaller number
      rename_i hLarge
      have hFront : (Nat.toDigits 10 (n / 10)).head? = some '0' := by
        obtain ⟨c, digits, hDigits, -⟩ := exists_toDigits (n / 10)
        rw [hDigits, List.cons_append] at h
        rw [hDigits]
        exact h
      have hZero := ih (n / 10) (by omega) hFront
      omega

theorem isDigit_toDigits (n : Nat) : ∀ c ∈ Nat.toDigits 10 n, c.isDigit = true := fun _ hc =>
  Nat.isDigit_of_mem_toDigits (by omega) (by omega) hc

/-- Digits are read up to what follows them. -/
theorem readDigits?_append {digits rest : List Char} (hDigits : ∀ c ∈ digits, c.isDigit = true)
    (hSome : digits ≠ []) (hRest : endsDigits rest = true) :
    readDigits? (digits ++ rest) = some (digits, rest) := by
  have hStop : rest.takeWhile Char.isDigit = [] ∧ rest.dropWhile Char.isDigit = rest := by
    cases rest with
    | nil => exact ⟨rfl, rfl⟩
    | cons c rest =>
      have hDigit : c.isDigit = false := by
        simpa [endsDigits] using hRest
      exact ⟨List.takeWhile_cons_of_neg (by simp [hDigit]),
        List.dropWhile_cons_of_neg (by simp [hDigit])⟩
  rw [readDigits?, List.takeWhile_append_of_pos hDigits, List.dropWhile_append_of_pos hDigits,
    hStop.1, hStop.2, List.append_nil, if_neg hSome]

/-! ## The parts of a number -/

/-- The digits of a number: its integer part, its fraction if there is one, and the sign and the
digits of its exponent if there is one. -/
structure NumberParts where
  whole : List Char
  fraction : List Char := []
  exponent : Option (Bool × List Char) := none
  whole_ne_nil : whole ≠ []
  whole_digits : ∀ c ∈ whole, c.isDigit = true
  /-- There is no zero in front of another digit. -/
  whole_zero : whole.head? = some '0' → whole = ['0']
  fraction_digits : ∀ c ∈ fraction, c.isDigit = true
  exponent_digits : ∀ e ∈ exponent, e.2 ≠ [] ∧ ∀ c ∈ e.2, c.isDigit = true

namespace NumberParts

/-- The point and the fraction. -/
def fractionText (p : NumberParts) : List Char :=
  if p.fraction = [] then [] else '.' :: p.fraction

/-- The exponent, with a sign in any case. -/
def exponentText (p : NumberParts) : List Char :=
  match p.exponent with
  | some e => 'e' :: (if e.1 then '-' else '+') :: e.2
  | none => []

/-- The text of a number without its sign. -/
def text (p : NumberParts) : List Char := p.whole ++ (p.fractionText ++ p.exponentText)

/-- The text of a number. -/
def signedText (negative : Bool) (p : NumberParts) : List Char :=
  (if negative then ['-'] else []) ++ p.text

/-- The value that a number is read as. -/
def value (negative : Bool) (p : NumberParts) : Value :=
  numberOf negative p.whole p.fraction <| p.exponent.map fun e =>
    if e.1 then -(Nat.ofDigitChars 10 e.2 0 : Int) else Nat.ofDigitChars 10 e.2 0

/-- A number is written with a digit in front. -/
theorem exists_text (p : NumberParts) : ∃ c cs, p.text = c :: cs ∧ c.isDigit = true := by
  obtain ⟨c, digits, hWhole⟩ := List.exists_cons_of_ne_nil p.whole_ne_nil
  have hMem : c ∈ p.whole := hWhole ▸ List.mem_cons_self ..
  exact ⟨c, digits ++ (p.fractionText ++ p.exponentText), by rw [text, hWhole]; rfl,
    p.whole_digits c hMem⟩

end NumberParts

variable (p : NumberParts) {rest : List Char}

theorem readWhole?_parts (hRest : endsDigits rest = true) :
    readWhole? (p.whole ++ rest) = some (p.whole, rest) := by
  have hZero : ¬ (p.whole.head? = some '0' ∧ p.whole ≠ ['0']) := fun h => h.2 (p.whole_zero h.1)
  rw [readWhole?, readDigits?_append p.whole_digits p.whole_ne_nil hRest]
  simp [hZero]

theorem readFraction?_parts (hRest : endsFraction rest = true) :
    readFraction? (p.fractionText ++ rest) = some (p.fraction, rest) := by
  rw [NumberParts.fractionText]
  split
  · -- without a point there is no fraction
    rename_i hNone
    rw [hNone, List.nil_append]
    cases rest with
    | nil => rfl
    | cons c rest =>
      have hPoint : c ≠ '.' := by
        rintro rfl
        simp [endsFraction] at hRest
      rw [readFraction?]
      intro _ h
      exact absurd (List.cons.inj h).1 hPoint
  · rename_i hSome
    exact readDigits?_append p.fraction_digits hSome (endsDigits_of_endsFraction hRest)

/-- The exponent is read with its sign, if there is one. -/
theorem readExponent?_parts (hRest : endsNumber rest = true) :
    readExponent? (p.exponentText ++ rest) =
      some (p.exponent.map fun e =>
        if e.1 then -(Nat.ofDigitChars 10 e.2 0 : Int) else Nat.ofDigitChars 10 e.2 0, rest) := by
  rw [NumberParts.exponentText]
  cases hExponent : p.exponent with
  | none =>
    -- what follows the number does not look like an exponent
    cases rest with
    | nil => rfl
    | cons c rest =>
      have hMark : ¬ (c = 'e' ∨ c = 'E') := by
        rintro (rfl | rfl) <;> simp [endsNumber] at hRest
      show readExponent? (c :: rest) = _
      rw [readExponent?, if_neg hMark]
      rfl
  | some e =>
    obtain ⟨hSome, hAll⟩ := p.exponent_digits e hExponent
    have hRead := readDigits?_append hAll hSome
      (endsDigits_of_endsFraction (endsFraction_of_endsNumber hRest))
    obtain ⟨negative, digits⟩ := e
    show readExponent? ('e' :: (if negative then '-' else '+') :: (digits ++ rest)) = _
    rw [readExponent?, if_pos (.inl rfl)]
    cases negative with
    | true =>
      show (readDigits? (digits ++ rest) >>= _) = _
      rw [hRead]
      rfl
    | false =>
      show (readDigits? (digits ++ rest) >>= _) = _
      rw [hRead]
      rfl

/-- **A number without its sign is read** up to what follows it. -/
theorem readMagnitude?_parts (negative : Bool) (hRest : endsNumber rest = true) :
    readMagnitude? negative (p.text ++ rest) = some (p.value negative, rest) := by
  have hExponent : endsFraction (p.exponentText ++ rest) = true := by
    rw [NumberParts.exponentText]
    cases p.exponent with
    | none => exact endsFraction_of_endsNumber hRest
    | some e => rfl
  have hFraction : endsDigits (p.fractionText ++ (p.exponentText ++ rest)) = true := by
    rw [NumberParts.fractionText]
    split
    · exact endsDigits_of_endsFraction hExponent
    · rfl
  rw [readMagnitude?, NumberParts.text, List.append_assoc, List.append_assoc,
    readWhole?_parts p hFraction]
  simp only [Option.bind_eq_bind, Option.bind_some]
  rw [readFraction?_parts p hExponent]
  simp only [Option.bind_some]
  rw [readExponent?_parts p hRest]
  rfl

/-- **A number is read** up to what follows it. -/
theorem readNumber?_parts (negative : Bool) (hRest : endsNumber rest = true) :
    readNumber? (p.signedText negative ++ rest) = some (p.value negative, rest) := by
  cases negative with
  | true => exact readMagnitude?_parts p true hRest
  | false =>
    -- the first digit is no sign
    have hMagnitude := readMagnitude?_parts p false hRest
    obtain ⟨c, cs, hText, hDigit⟩ := p.exists_text
    rw [hText, List.cons_append] at hMagnitude
    show readNumber? (p.text ++ rest) = _
    rw [hText, List.cons_append, readNumber?, hMagnitude]
    rintro _ h
    rw [(List.cons.inj h).1] at hDigit
    exact absurd hDigit (by decide)

/-! ## Integers -/

/-- The parts of a natural number. -/
def NumberParts.ofNat (n : Nat) : NumberParts where
  whole := Nat.toDigits 10 n
  whole_ne_nil := Nat.toDigits_ne_nil
  whole_digits := isDigit_toDigits n
  whole_zero h := by rw [head?_toDigits n h]; rfl
  fraction_digits _ h := absurd h List.not_mem_nil
  exponent_digits _ h := by cases h

/-- The text of an integer is that of its magnitude, with its sign. -/
theorem toList_toString (n : Int) :
    (toString n).toList = (NumberParts.ofNat n.natAbs).signedText (decide (n < 0)) := by
  have hText : ∀ n, (NumberParts.ofNat n).text = Nat.toDigits 10 n := fun n => List.append_nil _
  rw [Int.toString_eq_repr, Int.repr_eq_if, NumberParts.signedText, hText]
  split
  · rename_i hSign
    rw [Nat.toList_repr, decide_eq_false (by omega), show n.toNat = n.natAbs by omega]
    rfl
  · rename_i hSign
    rw [String.toList_append, Nat.toList_repr, decide_eq_true (by omega),
      show (-n).toNat = n.natAbs by omega]
    rfl

/-- The parts of an integer stand for the integer. -/
theorem value_ofNat (n : Int) :
    (NumberParts.ofNat n.natAbs).value (decide (n < 0)) = .int n := by
  show Value.int (if decide (n < 0) = true then
    -(Nat.ofDigitChars 10 (Nat.toDigits 10 n.natAbs) 0 : Int)
    else Nat.ofDigitChars 10 (Nat.toDigits 10 n.natAbs) 0) = _
  rw [Nat.ofDigitChars_ten_toDigits]
  congr 1
  simp only [decide_eq_true_eq]
  split <;> omega

end Json

end SqlCompose
