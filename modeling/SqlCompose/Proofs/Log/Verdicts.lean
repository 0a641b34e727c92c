import SqlCompose.Log.Hub
import SqlCompose.Proofs.Decimal.Nonzero
import SqlCompose.Proofs.Log.Names

/-!
# SqlCompose — what loggers have decided

A logger is made when it is asked for, and it keeps what it has decided on a
level. Neither of them is meant to be seen: a logger without a level of its own
adds nothing to the levels, and a decision is given up as soon as some logger is
given another level. Still a new logger may come to stand above others, and lead
past some that stood there before. Then the level in force for these is another
one, and what they have decided is out of date.

Where no two dots stand side by side in a name, none of this happens:

* `Hub.effectiveRank_register`: the level in force does not depend on which
  loggers were asked for;
* `Hub.IsFresh.decideOn`, `Hub.IsFresh.register`: what was decided stays what
  would be decided;
* `Hub.IsFresh.isEnabled_eq`: so a logger takes a record exactly if the level in
  force lets it.

A decision on one level is found again under every equal one, whatever its type
(`Hub.judge_of_equal`).
-/

namespace SqlCompose

/-! ## Levels that are equal -/

namespace Binary64

variable {x y : Binary64} {n : Int}

/-- Zero is zero for both signs. -/
theorem signedNumerator_of_isZero (h : x.isZero = true) : x.signedNumerator = 0 := by
  rw [isZero, Bool.and_eq_true, beq_iff_eq] at h
  simp [signedNumerator, numerator, h.2]

/-- A finite number is above zero and reaches a rank exactly if its fraction does. -/
theorem reaches_of_isFinite (h : x.isFinite = true) (rank : Int) :
    (!x.isNaN && !x.atMostInt 0 && x.atLeastInt rank) =
      (decide (0 < x.signedNumerator) && decide (rank * x.denominator ≤ x.signedNumerator)) := by
  have hField : (x.exponentField == 0x7FF) = false := by
    rw [isFinite, bne_iff_ne] at h
    exact beq_false_of_ne h
  have hPositive : (!decide (x.signedNumerator ≤ 0)) = decide (0 < x.signedNumerator) := by
    rw [← decide_not, decide_eq_decide, Int.not_le]
  simp [atMostInt, atLeastInt, isNaN, isInfinite, hField, hPositive]

/-- A number that is an integer is above zero and reaches a rank exactly if the integer does. -/
theorem reaches_of_equalsInt (h : x.equalsInt n = true) (rank : Int) :
    (!x.isNaN && !x.atMostInt 0 && x.atLeastInt rank) =
      (decide (0 < n) && decide (rank ≤ n)) := by
  rw [equalsInt, Bool.and_eq_true, beq_iff_eq] at h
  have hScaled : ∀ m k : Int, m * x.denominator ≤ k * x.denominator ↔ m ≤ k :=
    fun _ _ => Int.mul_le_mul_iff_of_pos_right (Int.natCast_pos.mpr x.denominator_pos)
  have hAbove : 0 < n * x.denominator ↔ 0 < n := by
    have hNot := hScaled n 0
    rw [Int.zero_mul] at hNot
    rw [← Int.not_le, hNot, Int.not_le]
  rw [reaches_of_isFinite h.1, h.2]
  simp only [hScaled, hAbove]

/-- Numbers of one value reach the same ranks. -/
theorem reaches_of_sameValue (h : x.sameValue y = true) (rank : Int) :
    (!x.isNaN && !x.atMostInt 0 && x.atLeastInt rank) =
      (!y.isNaN && !y.atMostInt 0 && y.atLeastInt rank) := by
  rw [sameValue] at h
  split at h
  · exact absurd h Bool.false_ne_true
  · split at h
    · rename_i hZero
      rw [Bool.and_eq_true] at hZero
      -- neither of the two zeros is above zero
      have hFinite : ∀ z : Binary64, z.isZero = true → z.isFinite = true := fun z hz =>
        (Bool.and_eq_true .. ▸ hz).1
      rw [reaches_of_isFinite (hFinite x hZero.1), reaches_of_isFinite (hFinite y hZero.2),
        signedNumerator_of_isZero hZero.1, signedNumerator_of_isZero hZero.2,
        decide_eq_false (Int.lt_irrefl 0), Bool.false_and, Bool.false_and]
    · obtain rfl : x = y := by
        cases x
        cases y
        exact congrArg mk (beq_iff_eq.mp h)
      rfl

end Binary64

namespace Value

variable {v w : Value} {n : Int}

/-- What counts as an integer is equal to the same values as this integer. -/
theorem equal_of_int? (h : v.int? = some n) (w : Value) : equal v w = equal (.int n) w := by
  cases v with
  | bool b =>
    obtain rfl := Option.some.inj h
    cases w <;> simp [equal, equalAtoms, int?, text?]
  | int m =>
    obtain rfl := Option.some.inj h
    rfl
  | object o =>
    have hNumber : o.number? = some n := h
    -- two objects are equal as numbers if both are some, and otherwise only if they are one
    cases w with
    | object other =>
      cases hOther : other.number? with
      | none =>
        have hApart : o ≠ other := by
          rintro rfl
          rw [hNumber] at hOther
          exact absurd hOther (by rintro ⟨⟩)
        simp [equal, equalAtoms, int?, text?, hNumber, hOther, hApart]
      | some m => simp [equal, equalAtoms, int?, text?, hNumber, hOther]
    | _ => simp [equal, equalAtoms, int?, text?, hNumber]
  | _ => exact absurd h (by rintro ⟨⟩)

/-- Integers are equal as numbers. -/
theorem equal_int (hw : w.int? = some n) (m : Int) : equal (.int m) w = (m == n) := by
  cases w with
  | bool b =>
    obtain rfl := Option.some.inj hw
    simp [equal, equalAtoms, int?, text?]
  | int k =>
    obtain rfl := Option.some.inj hw
    simp [equal, equalAtoms, int?, text?]
  | object o =>
    have hNumber : o.number? = some n := hw
    simp [equal, equalAtoms, int?, text?, hNumber]
  | _ => exact absurd hw (by rintro ⟨⟩)

/-- What equals an integer counts as this integer, or is a number that has its value. -/
theorem int?_of_equal (h : equal v w = true) (hw : w.int? = some n) :
    v.int? = some n ∨ ∃ x, v = .float x ∧ x.equalsInt n = true := by
  cases hv : v.int? with
  | some m =>
    rw [equal_of_int? hv, equal_int hw, beq_iff_eq] at h
    exact .inl (congrArg some h)
  | none =>
    right
    cases v with
    | float x => cases w <;> simp_all [equal, equalAtoms, int?]
    | object o =>
      have hNumber : o.number? = none := hv
      cases w with
      | object other =>
        -- of two values of which one alone is an integer, neither is the other
        simp only [equal, equalAtoms, hNumber, beq_iff_eq] at h
        subst h
        exact absurd (hv.symm.trans hw) (by rintro ⟨⟩)
      | _ => simp_all [equal, equalAtoms, int?, text?]
    | _ => cases w <;> simp_all [equal, equalAtoms, int?, text?]

/-- What equals a number has its value, or counts as an integer that has it. -/
theorem float_of_equal {y : Binary64} (h : equal v (.float y) = true) :
    (∃ x, v = .float x ∧ x.sameValue y = true) ∨ ∃ n, v.int? = some n ∧ y.equalsInt n = true := by
  cases v with
  | float x => exact .inl ⟨x, rfl, h⟩
  | object o =>
    cases hNumber : o.number? with
    | none => simp [equal, equalAtoms, int?, hNumber] at h
    | some n =>
      simp only [equal, equalAtoms, int?, hNumber, Option.map_some, Option.getD_some] at h
      exact .inr ⟨n, hNumber, h⟩
  | bool b => exact .inr ⟨_, rfl, h⟩
  | int m => exact .inr ⟨m, rfl, h⟩
  | _ => simp [equal, equalAtoms, int?] at h

end Value

namespace Hub

variable {hub : Hub} {name : String}

/-! ## What stays as it is -/

/-- Asking for a logger changes nothing but which loggers there are. -/
theorem exists_register (hub : Hub) (name : String) :
    ∃ ranks, hub.register name = { hub with ranks := ranks } := by
  rw [register]
  split
  · exact ⟨hub.ranks, rfl⟩
  · exact ⟨_, rfl⟩

/-- A decision changes nothing but what was decided. -/
theorem exists_decideOn (hub : Hub) (name : String) (level : Value) :
    ∃ verdicts, hub.decideOn name level = { hub with verdicts := verdicts } := by
  rw [decideOn]
  split
  · exact ⟨_, rfl⟩
  · exact ⟨hub.verdicts, rfl⟩

/-! ## Levels in force -/

/-- The root of the namespace is always there. -/
theorem hasLogger_namespaceName (hub : Hub) : hub.hasLogger namespaceName = true := by
  rw [hasLogger, Bool.or_eq_true]
  exact .inl rfl

/-- Giving a logger a level gives it to no other logger. -/
theorem rankOf_setRank (hub : Hub) (name other : String) (rank : Int) :
    (hub.setRank name rank).rankOf other = if other = name then rank else hub.rankOf other := by
  rw [rankOf, setRank, List.find?_cons]
  by_cases hSame : other = name
  · rw [if_pos hSame, hSame, beq_self_eq_true]
    rfl
  · have hOther : (name == other) = false := beq_false_of_ne fun h => hSame h.symm
    rw [if_neg hSame, hOther]
    rfl

/-- There is a logger for every name that has a level. -/
theorem hasLogger_of_rankOf (h : hub.rankOf name ≠ 0) : hub.hasLogger name = true := by
  rw [hasLogger, Bool.or_eq_true, List.any_eq_true]
  right
  cases hFound : hub.ranks.find? fun entry => entry.1 == name with
  | none =>
    rw [rankOf, hFound] at h
    exact absurd rfl h
  | some entry =>
    have hName := List.find?_some hFound
    exact ⟨entry, List.mem_of_find?_eq_some hFound, hName⟩

/-- A logger that is asked for has no level, unless it had one. -/
@[simp] theorem rankOf_register (hub : Hub) (name other : String) :
    (hub.register name).rankOf other = hub.rankOf other := by
  rw [register]
  split
  · rfl
  · rename_i hNew
    -- no level was given to a logger that there was not
    have hNone : hub.rankOf name = 0 := by
      by_contra hGiven
      exact hNew (hasLogger_of_rankOf hGiven)
    refine (hub.rankOf_setRank name other 0).trans ?_
    split
    · rename_i hSame
      rw [hSame, hNone]
    · rfl

/-- A name that is no logger's adds nothing to the levels. -/
theorem find?_rankOf_filter (hub : Hub) (names : List String) :
    ((names.filter hub.hasLogger).map hub.rankOf).find? (· ≠ 0) =
      (names.map hub.rankOf).find? (· ≠ 0) := by
  induction names with
  | nil => rfl
  | cons name names ih =>
    rw [List.filter_cons, List.map_cons, List.find?_cons]
    split
    · rw [List.map_cons, List.find?_cons, ih]
    · rename_i hNone
      have hRank : hub.rankOf name = 0 := by
        by_contra hGiven
        exact hNone (hasLogger_of_rankOf hGiven)
      rw [ih, hRank]
      rfl

/-- **The level in force does not depend on which loggers there are**, if no two dots stand side by
side in the name: it is that of the nearest part of the name that was given one. -/
theorem effectiveRank_eq (hub : Hub) (h : LoggerName.DotsApart name) :
    hub.effectiveRank name =
      (((name :: LoggerName.above (fun _ => true) name.toList.reverse).map hub.rankOf).find?
        (· ≠ 0)).getD Level.warningRank := by
  -- the parts that are no loggers were given no level either
  have hParts := LoggerName.above_eq_filter hub.hasLogger h.reverse
  rw [effectiveRank, lineage, hParts, List.map_cons, List.map_cons, List.find?_cons,
    List.find?_cons, find?_rankOf_filter]

/-- Asking for a logger changes no level in force. -/
theorem effectiveRank_register (hub : Hub) (asked : String) (h : LoggerName.DotsApart name) :
    (hub.register asked).effectiveRank name = hub.effectiveRank name := by
  rw [effectiveRank_eq _ h, effectiveRank_eq _ h]
  simp only [funext (hub.rankOf_register asked)]

/-- Nor does it change what the level in force lets through. -/
theorem judge_register (hub : Hub) (asked : String) (h : LoggerName.DotsApart name)
    (level : Value) : (hub.register asked).judge name level = hub.judge name level := by
  unfold judge takes
  rw [effectiveRank_register hub asked h]

/-! ## Decisions -/

/-- What counts as an integer is judged as a rank. -/
theorem judge_int {level : Value} {rank : Int} (h : level.int? = some rank) :
    hub.judge name level = .ok (hub.takes name rank) := by
  unfold judge
  rw [h]

theorem judge_float (hub : Hub) (name : String) (x : Binary64) :
    hub.judge name (.float x) =
      .ok (!x.isNaN && !x.atMostInt 0 && x.atLeastInt (hub.effectiveRank name)) := rfl

/-- Of equal levels the same is decided. -/
theorem judge_of_equal {level other : Value} (h : Value.equal level other = true) {verdict : Bool}
    (hOther : hub.judge name other = .ok verdict) : hub.judge name level = .ok verdict := by
  cases hInt : other.int? with
  | some n =>
    rw [judge_int hInt] at hOther
    rcases Value.int?_of_equal h hInt with hLevel | ⟨x, rfl, hValue⟩
    · rw [judge_int hLevel, hOther]
    · rw [judge_float, Binary64.reaches_of_equalsInt hValue, ← hOther, takes]
  | none =>
    cases other with
    | float y =>
      rcases Value.float_of_equal h with ⟨x, rfl, hValue⟩ | ⟨n, hLevel, hValue⟩
      · rw [judge_float, Binary64.reaches_of_sameValue hValue, ← hOther, judge_float]
      · rw [judge_int hLevel, ← hOther, judge_float, Binary64.reaches_of_equalsInt hValue, takes]
    | bool b => exact absurd hInt (by rintro ⟨⟩)
    | int n => exact absurd hInt (by rintro ⟨⟩)
    | object o =>
      -- nothing is decided on a level that is no number
      unfold judge at hOther
      rw [hInt] at hOther
      exact absurd hOther (by rintro ⟨⟩)
    | _ => exact absurd hOther (by rintro ⟨⟩)

/-- What was decided on a level is what the level in force would decide, if no two dots stand side
by side in the name. -/
def IsFresh (hub : Hub) : Prop :=
  ∀ entry ∈ hub.verdicts, LoggerName.DotsApart entry.1 →
    hub.judge entry.1 entry.2.1 = .ok entry.2.2

/-- Nothing is decided when a level was given. -/
theorem isFresh_setRank (hub : Hub) (name : String) (rank : Int) :
    (hub.setRank name rank).IsFresh :=
  fun _ hEntry => absurd hEntry List.not_mem_nil

/-- A decision stays fresh when a logger is asked for. -/
theorem IsFresh.register (h : hub.IsFresh) (name : String) : (hub.register name).IsFresh := by
  intro entry hEntry hApart
  rw [judge_register hub name hApart]
  obtain ⟨ranks, hRegister⟩ := hub.exists_register name
  rw [hRegister] at hEntry
  exact h entry hEntry hApart

/-- What was decided is what would be decided now. -/
theorem IsFresh.verdict?_eq (h : hub.IsFresh) (hName : LoggerName.DotsApart name) {level : Value}
    {verdict : Bool} (hFound : hub.verdict? name level = some verdict) :
    hub.judge name level = .ok verdict := by
  obtain ⟨entry, hEntry, rfl⟩ := Option.map_eq_some_iff.mp hFound
  have hKey := List.find?_some hEntry
  rw [Bool.and_eq_true, beq_iff_eq] at hKey
  obtain ⟨rfl, hEqual⟩ := hKey
  exact judge_of_equal hEqual (h entry (List.mem_of_find?_eq_some hEntry) hName)

/-- What a logger answers is what the level in force would decide. -/
theorem IsFresh.judge_of_isEnabledFor (h : hub.IsFresh) (hName : LoggerName.DotsApart name)
    {level : Value} {verdict : Bool} (hTaken : hub.isEnabledFor name level = .ok verdict) :
    hub.judge name level = .ok verdict := by
  rw [isEnabledFor] at hTaken
  split at hTaken
  · exact absurd hTaken (by rintro ⟨⟩)
  · split at hTaken
    · rename_i hFound
      rw [← hTaken]
      exact h.verdict?_eq hName hFound
    · exact hTaken

/-- **A new decision is fresh**, whether it is made or found. -/
theorem IsFresh.decideOn (h : hub.IsFresh) (name : String) (level : Value) :
    (hub.decideOn name level).IsFresh := by
  rw [Hub.decideOn]
  split
  · rename_i verdict hTaken
    intro entry hEntry hApart
    rcases List.mem_cons.mp hEntry with rfl | hBefore
    · exact h.judge_of_isEnabledFor hApart hTaken
    · exact h entry hBefore hApart
  · exact h

/-- **A logger takes a record exactly if the level in force lets it.** -/
theorem IsFresh.isEnabled_eq (h : hub.IsFresh) (hName : LoggerName.DotsApart name) (rank : Int) :
    hub.isEnabled name rank = hub.takes name rank := by
  rw [isEnabled]
  cases hFound : hub.verdict? name (.int rank) with
  | none => rfl
  | some verdict => exact (Except.ok.inj (h.verdict?_eq hName hFound)).symm

/-- With two dots side by side it is otherwise. The logger that is asked for last comes to stand
above `a..b`, and leads on to `a`, which was passed over before. The level in force is that of `a`
then, but what was decided before that is kept. -/
example :
    let levels := (Hub.setRank {} namespaceName 20).setRank (loggerBelow "a") 40
    let before := (levels.register (loggerBelow "a..b")).decideOn (loggerBelow "a..b") (.int 20)
    let after := before.register (loggerBelow "a.")
    before.effectiveRank (loggerBelow "a..b") = 20 ∧ after.effectiveRank (loggerBelow "a..b") = 40 ∧
      after.isEnabled (loggerBelow "a..b") 20 = true ∧
      after.takes (loggerBelow "a..b") 20 = false := by decide

/-- What counts as an integer is taken as a rank. -/
theorem isEnabledFor_int (hub : Hub) (name : String) {level : Value} {rank : Int}
    (h : level.int? = some rank) : hub.isEnabledFor name level = .ok (hub.isEnabled name rank) := by
  have hKeyable : Value.unkeyable? level = none := by
    cases level with
    | bool b => rfl
    | int n => rfl
    | object o => rfl
    | _ => exact absurd h (by rintro ⟨⟩)
  -- what was decided is found under every value that is equal
  have hFound : hub.verdict? name level = hub.verdict? name (.int rank) := by
    simp only [verdict?, Value.equal_of_int? h]
  rw [isEnabledFor, hKeyable, isEnabled, ← hFound]
  cases hub.verdict? name level with
  | none => exact judge_int h
  | some verdict => rfl

end Hub

end SqlCompose
