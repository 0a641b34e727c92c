import SqlCompose.Json.Writer
import SqlCompose.Proofs.Decimal.Nonzero
import SqlCompose.Proofs.Json.Numbers

/-!
# SqlCompose — finite numbers are numbers in JSON

A number of binary64 is laid out with the point among its digits, in front of
them or behind them, or with an exponent. Each layout is a number in the sense
of the JSON grammar: there is always a digit in front of the point, and it is a
zero only if it stands alone. That is where it matters that the digits of a
number do not begin with a zero (`Decimal.coefficient_shortest`).

* `Decimal.exists_layoutText`: every layout of such digits;
* `Json.exists_number`: every finite number.
-/

namespace SqlCompose

namespace Decimal

open Json (NumberParts)

/-- Digits of which the first is no zero. -/
structure Significant (digits : List Char) : Prop where
  ne_nil : digits ≠ []
  all_digits : ∀ c ∈ digits, c.isDigit = true
  head : digits.head? ≠ some '0'

variable {digits : List Char}

/-! ## The two sides of the point -/

/-- In front of the point stand digits of the number, with zeros behind them if there are too few,
or a single zero if there are none. -/
theorem Significant.split_whole (h : Significant digits) (point : Int) :
    (split digits point).1 ≠ [] ∧ (∀ c ∈ (split digits point).1, c.isDigit = true) ∧
      ((split digits point).1.head? = some '0' → (split digits point).1 = ['0']) := by
  obtain ⟨first, rest, rfl⟩ := List.exists_cons_of_ne_nil h.ne_nil
  unfold split
  split
  · exact ⟨by simp, by simp, fun _ => rfl⟩
  · split
    · refine ⟨by simp, fun c hc => ?_, fun hZero => absurd hZero h.head⟩
      rcases List.mem_append.mp hc with hDigit | hFill
      · exact h.all_digits c hDigit
      · rw [List.eq_of_mem_replicate hFill]
        rfl
    · -- the point is behind the first digit, or behind more of them
      rename_i hPoint _
      obtain ⟨n, hn⟩ := Nat.exists_eq_add_one_of_ne_zero (show point.toNat ≠ 0 by omega)
      rw [hn]
      exact ⟨by simp, fun c hc => h.all_digits c (List.mem_of_mem_take hc),
        fun hZero => absurd hZero h.head⟩

theorem Significant.split_fraction (h : Significant digits) (point : Int) :
    ∀ c ∈ (split digits point).2, c.isDigit = true := by
  intro c hc
  unfold split at hc
  split at hc
  · rcases List.mem_append.mp hc with hFill | hDigit
    · rw [List.eq_of_mem_replicate hFill]
      rfl
    · exact h.all_digits c hDigit
  · split at hc
    · cases hc
    · exact h.all_digits c (List.mem_of_mem_drop hc)

/-! ## Layouts -/

/-- A number that is written positionally; an integer has a zero behind the point. -/
theorem Significant.exists_positional (h : Significant digits) (point : Int) :
    ∃ p : NumberParts,
      (joinParts (split digits point).1 (split digits point).2 ".0").toList = p.text := by
  obtain ⟨hSome, hDigits, hZero⟩ := h.split_whole point
  by_cases hFraction : (split digits point).2 = []
  · refine ⟨⟨_, ['0'], none, hSome, hDigits, hZero, List.forall_mem_singleton.mpr rfl, nofun⟩, ?_⟩
    rw [joinParts, if_pos hFraction, String.toList_append, String.toList_ofList]
    rfl
  · refine ⟨⟨_, _, none, hSome, hDigits, hZero, h.split_fraction point, nofun⟩, ?_⟩
    rw [joinParts, if_neg hFraction, NumberParts.text, NumberParts.fractionText, if_neg hFraction]
    simp [NumberParts.exponentText]

/-- The digits of an exponent, of which there are at least two. -/
def exponentDigits (exponent : Int) : List Char :=
  (if (toString exponent.natAbs).length < 2 then ['0'] else []) ++ Nat.toDigits 10 exponent.natAbs

theorem toList_exponentText (exponent : Int) :
    (exponentText exponent).toList =
      'e' :: (if exponent < 0 then '-' else '+') :: exponentDigits exponent := by
  simp only [exponentText, exponentDigits, String.toList_append]
  rw [Nat.toString_eq_repr, Nat.toList_repr]
  split <;> split <;> rfl

/-- A number that is written with an exponent. -/
theorem Significant.exists_scientific (h : Significant digits) (point : Int) :
    ∃ p : NumberParts, (scientificText digits point "").toList = p.text := by
  have hExponent : ∀ c ∈ exponentDigits (point - 1), c.isDigit = true := by
    intro c hc
    rcases List.mem_append.mp hc with hFill | hDigit
    · split at hFill
      · rw [List.mem_singleton.mp hFill]
        rfl
      · cases hFill
    · exact Json.isDigit_toDigits _ c hDigit
  have hSome : exponentDigits (point - 1) ≠ [] :=
    fun hNone => Nat.toDigits_ne_nil (List.append_eq_nil_iff.mp hNone).2
  -- one digit stands before the point, the others behind it
  obtain ⟨first, rest, rfl⟩ := List.exists_cons_of_ne_nil h.ne_nil
  let p : NumberParts :=
    { whole := [first]
      fraction := rest
      exponent := some (decide (point - 1 < 0), exponentDigits (point - 1))
      whole_ne_nil := List.cons_ne_nil _ _
      whole_digits := fun c hc => h.all_digits c (List.mem_singleton.mp hc ▸ List.mem_cons_self ..)
      whole_zero := fun hZero => absurd hZero h.head
      fraction_digits := fun c hc => h.all_digits c (List.mem_cons_of_mem _ hc)
      exponent_digits := fun e he => Option.some.inj he ▸ ⟨hSome, hExponent⟩ }
  refine ⟨p, ?_⟩
  have hText : p.text = first :: ((if rest = [] then [] else '.' :: rest) ++
      'e' :: (if decide (point - 1 < 0) = true then '-' else '+') :: exponentDigits (point - 1)) :=
    rfl
  rw [hText, scientificText, String.toList_append, toList_exponentText, joinParts]
  simp only [List.take_succ_cons, List.take_zero, List.drop_succ_cons, List.drop_zero,
    decide_eq_true_eq]
  split <;> simp

/-- **Every layout of digits that do not begin with a zero is a number.** -/
theorem Significant.exists_layoutText (h : Significant digits) (point : Int) :
    ∃ p : NumberParts, (layoutText .natural digits point).toList = p.text := by
  unfold layoutText
  split
  · exact h.exists_positional point
  · exact h.exists_scientific point

end Decimal

namespace Json

/-- **The text of a finite number is a number.** -/
theorem exists_number {x : Binary64} (h : x.isFinite = true) :
    ∃ p : NumberParts, (number x).toList = p.signedText x.isNegative := by
  rw [Binary64.isFinite_eq, Bool.and_eq_true, Bool.not_eq_true', Bool.not_eq_true'] at h
  -- zero has a text of its own
  obtain ⟨p, hMagnitude⟩ : ∃ p : NumberParts, (if x.isZero then "0.0" else
      Decimal.layoutText .natural (Decimal.shortest x).digits (Decimal.shortest x).point).toList =
        p.text := by
    split
    · exact ⟨⟨['0'], ['0'], none, List.cons_ne_nil _ _, List.forall_mem_singleton.mpr rfl,
        fun _ => rfl, List.forall_mem_singleton.mpr rfl, nofun⟩, rfl⟩
    · rename_i hZero
      have hFinite : x.isFinite = true := by rw [Binary64.isFinite_eq, h.1, h.2]; rfl
      have hCoefficient := Decimal.coefficient_shortest hFinite (Bool.eq_false_of_not_eq_true hZero)
      exact Decimal.Significant.exists_layoutText
        ⟨Nat.toDigits_ne_nil, isDigit_toDigits _,
          fun hHead => hCoefficient (head?_toDigits _ hHead)⟩ _
  refine ⟨p, ?_⟩
  rw [number, h.1, h.2, if_neg Bool.false_ne_true, if_neg Bool.false_ne_true, Binary64.text,
    Binary64.signedText, h.1, h.2, if_neg Bool.false_ne_true, if_neg Bool.false_ne_true,
    String.toList_append, hMagnitude, NumberParts.signedText]
  cases x.isNegative <;> rfl

end Json

end SqlCompose
