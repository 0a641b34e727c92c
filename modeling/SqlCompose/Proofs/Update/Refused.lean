import SqlCompose.Proofs.Update.Assignments

/-!
# SqlCompose — several assignments, of which one is refused

Several assignments at once are not made as a whole. The items are gone through
one by one, and each is checked when its turn comes; so the call makes the
assignments in front of the first item that is refused, and then fails. What it
leaves is what single assignments would have left, one call for each of the
items in front, and a statement that was empty may be complete by then.

Main results:

* `Update.front_of_refusal` — where going through items stops, and why.
* `Update.several_made_until_refused` — what several assignments at once leave
  of a statement, whatever the argument is and however the call ends.
* `Update.refused_columns_left_assignment` — a refused call after which the
  statement can be built.
-/

namespace SqlCompose

namespace Update

/-! ## Where going through items stops -/

/-- The pairs in front of the first item that is refused. -/
def front : List Value → List (Value × Value)
  | [] => []
  | item :: rest =>
    match checkItem item with
    | .ok pair => pair :: front rest
    | .error _ => []

/-- Why the first item that is refused is refused. -/
def refusal? : List Value → Option Fault
  | [] => none
  | item :: rest =>
    match checkItem item with
    | .ok _ => refusal? rest
    | .error fault => some fault

/-- The pairs that an argument assigns before it is refused. -/
def frontOf (given : Value) : List (Value × Value) :=
  match assignmentItems given with
  | .ok items => front items
  | .error _ => []

/-- Why an argument is refused, for itself or for one of its items. -/
def refusalOf? (given : Value) : Option Fault :=
  match assignmentItems given with
  | .ok items => refusal? items
  | .error fault => some fault

/-- The items are those whose pairs are in front, and then either nothing or the one that is refused
with whatever follows it. -/
theorem front_of_refusal (items : List Value) :
    ∃ taken rest, items = taken ++ rest ∧ taken.map checkItem = (front items).map Except.ok ∧
      match refusal? items with
      | none => rest = []
      | some fault => ∃ item tail, rest = item :: tail ∧ checkItem item = .error fault := by
  induction items with
  | nil => exact ⟨[], [], rfl, rfl, rfl⟩
  | cons item more ih =>
    cases hItem : checkItem item with
    | error fault =>
      refine ⟨[], item :: more, rfl, ?_, ?_⟩
      · simp [front, hItem]
      · simp [refusal?, hItem]
    | ok pair =>
      -- the item is one more that is taken, and the rest stops where it did
      obtain ⟨taken, rest, hSplit, hTaken, hRest⟩ := ih
      refine ⟨item :: taken, rest, congrArg (item :: ·) hSplit, ?_, ?_⟩
      · rw [List.map_cons, hItem, hTaken, front, hItem]
        rfl
      · rw [refusal?, hItem]
        exact hRest

/-- An item is taken for a pair if it is one, and the column of the pair is not refused. -/
theorem checkItem_eq_ok {item : Value} {pair : Value × Value} :
    checkItem item = .ok pair ↔ pair? item = some pair ∧ Value.unkeyable? pair.1 = none := by
  rw [checkItem, checkPair]
  cases pair? item with
  | none =>
    constructor
    · rintro ⟨⟩
    · rintro ⟨⟨⟩, -⟩
  | some found =>
    rw [Option.some.injEq]
    show (checkColumn found.1).bind (fun _ => .ok found) = .ok pair ↔ _
    rw [checkColumn]
    cases hColumn : Value.unkeyable? found.1 with
    | none =>
      rw [Except.bind, Except.ok.injEq]
      exact ⟨fun h => ⟨h, h ▸ hColumn⟩, And.left⟩
    | some part =>
      refine ⟨by rintro ⟨⟩, ?_⟩
      rintro ⟨rfl, hNone⟩
      rw [hColumn] at hNone
      cases hNone

theorem keyable_front (items : List Value) :
    ∀ pair ∈ front items, Value.unkeyable? pair.1 = none := by
  intro pair hPair
  obtain ⟨taken, -, -, hTaken, -⟩ := front_of_refusal items
  -- a pair in front is what the check of an item has returned
  have hChecked : Except.ok pair ∈ taken.map checkItem := by
    rw [hTaken]
    exact List.mem_map_of_mem hPair
  obtain ⟨item, -, hItem⟩ := List.mem_map.mp hChecked
  exact (checkItem_eq_ok.mp hItem).2

theorem keyable_frontOf (given : Value) :
    ∀ pair ∈ frontOf given, Value.unkeyable? pair.1 = none := by
  unfold frontOf
  split
  · exact keyable_front _
  · exact nofun

/-! ## What is left -/

/-- The pairs in front are written into the table, and then the refusal is the outcome. -/
theorem assignEach_eq (items : List Value) (s : Update) :
    assignEach items s =
      ({ s with assignments := Value.insertEntries (front items) s.assignments },
        ⟨(refusal? items).elim (.ok ()) .error, []⟩) := by
  induction items generalizing s with
  | nil => rfl
  | cons item rest ih =>
    rw [assignEach_cons, front, refusal?]
    cases checkItem item with
    | error fault => rfl
    | ok pair => exact ih (s.withAssignment pair)

theorem assignAll_eq (given : Value) (s : Update) :
    assignAll given s =
      ({ s with assignments := Value.insertEntries (frontOf given) s.assignments },
        ⟨(refusalOf? given).elim (.ok ()) .error, []⟩) := by
  rw [assignAll, Work.require_bind, frontOf, refusalOf?]
  cases assignmentItems given with
  | error fault => rfl
  | ok items => exact assignEach_eq items s

/-- What can be told of several assignments at once. -/
structure MadeUntilRefused (text : Rendering) (s : Update) (given : Value) : Prop where
  /-- The call fails if the argument or one of its items is refused, and only then. -/
  result : (s.apply text (.columns given)).reply.result =
    (refusalOf? given).elim (.ok .chained) .error
  /-- Whatever comes of it, the pairs in front of the first refused item are assigned like by single
  calls, and nothing behind them is. -/
  made : (s.apply text (.columns given)).state =
    Run.after (apply text) s ((frontOf given).map fun pair => .assign pair.1 pair.2)
  /-- The table and the condition are left alone. -/
  table : (s.apply text (.columns given)).state.table = s.table
  condition : (s.apply text (.columns given)).state.condition = s.condition
  /-- So the call leaves no trace exactly if writing the pairs in front changes nothing. -/
  traceless : (s.apply text (.columns given)).state = s ↔
    Value.insertEntries (frontOf given) s.assignments = s.assignments
  /-- Nothing is reported. -/
  silent : (s.apply text (.columns given)).reply.events = []

/-- **Several assignments are made until one is refused.** -/
theorem several_made_until_refused (text : Rendering) (s : Update) (given : Value) :
    MadeUntilRefused text s given := by
  have hState : (s.apply text (.columns given)).state =
      { s with assignments := Value.insertEntries (frontOf given) s.assignments } := by
    rw [state_columns, assignAll_eq]
  refine ⟨?_, ?_, ?_, ?_, ?_, ?_⟩
  · rw [apply, Answer.result_worked, assignAll_eq]
    cases refusalOf? given with
    | none => rfl
    | some fault => rfl
  · rw [hState]
    exact (after_assigns text (keyable_frontOf given) s).symm
  · rw [hState]
  · rw [hState]
  · rw [hState]
    exact ⟨fun hSame => congrArg Update.assignments hSame, fun hSame => by rw [hSame]⟩
  · show ((assignAll given s).2 >>= fun _ => (pure .chained : Logged Reply)).events = []
    rw [Logged.events_bind, assignAll_eq]
    cases refusalOf? given with
    | none => rfl
    | some fault => rfl

/-- The second of two items is no pair. The call is refused, and the statement, which could not be
built before it, can be built after it. -/
theorem refused_columns_left_assignment :
    ∃ fresh, create (.text "users") = .ok fresh ∧
      let given := .list [.tuple [.text "karma", .text "0"], .text "name"]
      let answer := fresh.apply (Store.text {}) (.columns given)
      answer.reply.result = .error (.notAssignment (.text "name")) ∧
      answer.state ≠ fresh ∧
      (fresh.apply (Store.text {}) .build).reply.result = .error (.noAssignments "users") ∧
      (answer.state.apply (Store.text {}) .build).reply.result =
        .ok (.built "UPDATE users SET karma = 0;") := by
  refine ⟨{ table := .text "users" }, rfl, ?_⟩
  intro given answer
  refine ⟨rfl, fun hSame => ?_, rfl, rfl⟩
  -- before the call nothing is assigned, after it one column is
  have hLength := congrArg (fun s : Update => s.assignments.length) hSame
  cases hLength

end Update

end SqlCompose
