import Mathlib.Tactic.Ring
import SqlCompose.Decimal.Notation

/-!
# SqlCompose — a number that is not zero has digits that are not zero

The digits of a number are the first that read back to it, among candidates of
one digit, two digits and so on; if none of the candidates did, seventeen digits
would be taken. A zero is never among what reads back, since it lies below the
halfway point to the neighbour; and seventeen digits are counted from the leading
digit of the number, so that what is rounded to them is at least one.

* `Decimal.pos_of_readsBack`: candidates;
* `Decimal.den_le_scaled`: the place of the leading digit;
* `Decimal.coefficient_shortest`: the digits that are written.
-/

namespace SqlCompose

namespace Binary64

variable {x : Binary64}

/-- A number is finite, an infinity, or no number. -/
theorem isFinite_eq (x : Binary64) : x.isFinite = (!x.isNaN && !x.isInfinite) := by
  rw [isFinite, isNaN, isInfinite, bne]
  cases x.exponentField == 0x7FF <;> cases h : x.fractionField == 0 <;> simp [bne, h]

theorem mantissa_pos (hFinite : x.isFinite = true) (h : x.isZero = false) : 0 < x.mantissa := by
  rw [isZero, hFinite, Bool.true_and, beq_eq_false_iff_ne] at h
  exact Nat.pos_of_ne_zero h

theorem numerator_pos (hFinite : x.isFinite = true) (h : x.isZero = false) : 0 < x.numerator :=
  Nat.mul_pos (mantissa_pos hFinite h) (Nat.pow_pos (by omega))

theorem denominator_pos (x : Binary64) : 0 < x.denominator := Nat.pow_pos (by omega)

/-- The smallest distance between two numbers is not below `10 ^ -400`. -/
theorem denominator_le (x : Binary64) {n : Nat} (h : 400 ≤ n) : x.denominator ≤ 10 ^ n := by
  have hExponent : (-x.exponent).toNat ≤ 3 * n := by
    rw [exponent]
    omega
  calc x.denominator ≤ 2 ^ (3 * n) := Nat.pow_le_pow_right (by omega) hExponent
    _ = 8 ^ n := Nat.pow_mul 2 3 n
    _ ≤ 10 ^ n := Nat.pow_le_pow_left (by omega) n

end Binary64

namespace Decimal

/-! ## Candidates -/

/-- What reads back to a number that is not zero is not zero. -/
theorem pos_of_readsBack {x : Binary64} (hMantissa : 0 < x.mantissa) {d : Decimal}
    (h : readsBack x d = true) : d.coefficient ≠ 0 := by
  intro hZero
  have hUnit : 0 < Nat.pow 2 x.exponent.toNat * Nat.pow 10 (-d.exponent).toNat :=
    Nat.mul_pos (Nat.pow_pos (by omega)) (Nat.pow_pos (by omega))
  -- the halfway point to the neighbour below is above zero
  have hLow : 0 < 4 * x.mantissa - if x.narrowBelow then 1 else 2 := by
    split <;> omega
  have hBelow := Nat.mul_pos hLow hUnit
  rw [readsBack, hZero] at h
  simp only [Nat.zero_mul] at h
  split at h
  · rw [Bool.and_eq_true, decide_eq_true_eq] at h
    omega
  · rw [Bool.and_eq_true, decide_eq_true_eq] at h
    omega

theorem le_roundedQuotient (num den : Nat) : num / den ≤ roundedQuotient num den := by
  rw [roundedQuotient]
  split
  · exact Nat.le_refl _
  · split
    · omega
    · split <;> omega

theorem coefficient_shortestOn? {x : Binary64} (hMantissa : 0 < x.mantissa) {count : Nat}
    {d : Decimal} (h : shortestOn? x count = some d) : d.coefficient ≠ 0 := by
  rw [shortestOn?] at h
  split at h
  · -- the neighbour below is not zero, and rounding does not go below it
    rename_i hBelow _
    have hQuotient := pos_of_readsBack hMantissa hBelow
    rw [← Option.some.inj h]
    exact fun hZero => hQuotient (Nat.le_zero.mp (hZero ▸ le_roundedQuotient _ _))
  · rename_i hBelow _
    rw [← Option.some.inj h]
    exact pos_of_readsBack hMantissa hBelow
  · rw [← Option.some.inj h]
    exact Nat.succ_ne_zero _
  · cases h

/-! ## The place of the leading digit -/

/-- So many zeros behind the point are enough to bring a fraction to one. -/
theorem le_leadingZeros {fuel num den : Nat} (h : den ≤ num * 10 ^ fuel) :
    den ≤ num * 10 ^ leadingZeros fuel num den := by
  induction fuel generalizing num with
  | zero => exact h
  | succ fuel ih =>
    rw [leadingZeros]
    split
    · omega
    · have hNext : den ≤ num * 10 * 10 ^ fuel := by
        rw [Nat.pow_succ] at h
        calc den ≤ num * (10 ^ fuel * 10) := h
          _ = num * 10 * 10 ^ fuel := by ring
      calc den ≤ num * 10 * 10 ^ leadingZeros fuel (num * 10) den := ih hNext
        _ = num * 10 ^ (leadingZeros fuel (num * 10) den + 1) := by ring

/-- A number is not below the power of ten that its digits begin with. -/
theorem pow_le_of_length {n : Nat} (h : n ≠ 0) : 10 ^ ((Nat.toDigits 10 n).length - 1) ≤ n := by
  by_cases hOne : (Nat.toDigits 10 n).length ≤ 1
  · rw [Nat.sub_eq_zero_of_le hOne]
    omega
  · have hMore := Nat.length_toDigits_le_iff (n := n) (b := 10)
      (k := (Nat.toDigits 10 n).length - 1) (by omega) (by omega)
    omega

/-- Counted in units of the seventeenth digit from the leading one, a fraction is at least one. -/
theorem den_le_scaled {num den : Nat} (hNum : 0 < num) (hDen : 0 < den) (hRange : den ≤ 10 ^ 400)
    {digits : Nat} (hDigits : 0 < digits) :
    let fraction := scaled num den (pointPosition num den - digits)
    0 < fraction.2 ∧ fraction.2 ≤ fraction.1 := by
  refine ⟨Nat.mul_pos hDen (Nat.pow_pos (by omega)), ?_⟩
  show den * 10 ^ (pointPosition num den - digits).toNat ≤
    num * 10 ^ (-(pointPosition num den - digits)).toNat
  unfold pointPosition
  split
  · -- the leading digit stands before the point
    rename_i hLarge
    have hQuotient : num / den ≠ 0 := Nat.ne_of_gt (Nat.div_pos hLarge hDen)
    have hPlaces : (((Nat.toDigits 10 (num / den)).length : Int) - digits).toNat ≤
        (Nat.toDigits 10 (num / den)).length - 1 := by omega
    calc den * 10 ^ (((Nat.toDigits 10 (num / den)).length : Int) - digits).toNat
        ≤ den * 10 ^ ((Nat.toDigits 10 (num / den)).length - 1) :=
          Nat.mul_le_mul_left _ (Nat.pow_le_pow_right (by omega) hPlaces)
      _ ≤ den * (num / den) := Nat.mul_le_mul_left _ (pow_le_of_length hQuotient)
      _ ≤ num := Nat.mul_div_le num den
      _ ≤ num * 10 ^ (-(((Nat.toDigits 10 (num / den)).length : Int) - digits)).toNat :=
          Nat.le_mul_of_pos_right _ (Nat.pow_pos (by omega))
  · -- it stands behind the point, after some zeros
    have hReached : den ≤ num * 10 ^ 400 :=
      hRange.trans (Nat.le_mul_of_pos_left _ hNum)
    have hUnit : ((1 : Int) - (leadingZeros 400 num den : Nat) - digits).toNat = 0 := by omega
    have hPlaces : leadingZeros 400 num den ≤
        (-((1 : Int) - (leadingZeros 400 num den : Nat) - digits)).toNat := by omega
    rw [hUnit, Nat.pow_zero, Nat.mul_one]
    exact (le_leadingZeros hReached).trans
      (Nat.mul_le_mul_left _ (Nat.pow_le_pow_right (by omega) hPlaces))

theorem coefficient_rounded {num den : Nat} (hNum : 0 < num) (hDen : 0 < den)
    (hRange : den ≤ 10 ^ 400) {digits : Nat} (hDigits : 0 < digits) :
    (rounded num den digits).coefficient ≠ 0 := by
  obtain ⟨hPos, hOne⟩ := den_le_scaled hNum hDen hRange hDigits
  have hCount : 0 < roundedTo num den (pointPosition num den - digits) :=
    Nat.lt_of_lt_of_le (Nat.div_pos hOne hPos) (le_roundedQuotient _ _)
  rw [rounded]
  split
  · exact Nat.ne_of_gt (Nat.pow_pos (by omega))
  · exact Nat.ne_of_gt hCount

/-! ## The digits that are written -/

theorem coefficient_withoutTrailingZeros (fuel : Nat) {d : Decimal} (h : d.coefficient ≠ 0) :
    (withoutTrailingZeros fuel d).coefficient ≠ 0 := by
  induction fuel generalizing d with
  | zero => exact h
  | succ fuel ih =>
    rw [withoutTrailingZeros]
    split
    · rename_i hZero
      refine ih (d := ⟨d.coefficient / 10, d.exponent + 1⟩) ?_
      show d.coefficient / 10 ≠ 0
      omega
    · exact h

/-- **The digits of a finite number that is not zero are not zero.** -/
theorem coefficient_shortest {x : Binary64} (hFinite : x.isFinite = true)
    (h : x.isZero = false) : (shortest x).coefficient ≠ 0 := by
  refine coefficient_withoutTrailingZeros 400 ?_
  cases hFound : (List.range 17).findSome? fun n => shortestOn? x (n + 1) with
  | some d =>
    obtain ⟨n, -, hOn⟩ := List.exists_of_findSome?_eq_some hFound
    exact coefficient_shortestOn? (Binary64.mantissa_pos hFinite h) hOn
  | none =>
    exact coefficient_rounded (Binary64.numerator_pos hFinite h) x.denominator_pos
      (x.denominator_le (Nat.le_refl 400)) (by omega)

end Decimal

end SqlCompose
