import SqlCompose.Fault
import SqlCompose.Log.Event

/-!
# SqlCompose — results with a log

An operation on a statement returns something or fails, and on the way it may
report events. The events are part of the result also when the operation fails:
what was reported before the failure stays reported.

* `Logged.result_bind`, `Logged.events_bind`: what a sequence of two operations
  returns and reports.

The monad laws hold, so sequences of operations can be regrouped freely.
-/

namespace SqlCompose

/-- A result or a failure, and the events that were reported before it. -/
structure Logged (α : Type) where
  result : Except Fault α
  events : List Event

namespace Logged

/-- A result without events. -/
def done {α : Type} (a : α) : Logged α := ⟨.ok a, []⟩

/-- A failure without events. -/
def fail {α : Type} (fault : Fault) : Logged α := ⟨.error fault, []⟩

/-- A single event. -/
def report (event : Event) : Logged Unit := ⟨.ok (), [event]⟩

/-- A result or a failure that reports nothing. -/
def ofExcept {α : Type} (result : Except Fault α) : Logged α := ⟨result, []⟩

/-- One operation after another; a failure ends the sequence. -/
def andThen {α β : Type} (x : Logged α) (f : α → Logged β) : Logged β :=
  match x.result with
  | .ok a => ⟨(f a).result, x.events ++ (f a).events⟩
  | .error fault => ⟨.error fault, x.events⟩

instance : Monad Logged where
  pure := done
  bind := andThen

@[simp] theorem result_pure {α : Type} (a : α) : (pure a : Logged α).result = .ok a := rfl

@[simp] theorem events_pure {α : Type} (a : α) : (pure a : Logged α).events = [] := rfl

/-- A sequence returns what its second part returns. -/
theorem result_bind {α β : Type} (x : Logged α) (f : α → Logged β) :
    (x >>= f).result = x.result.bind fun a => (f a).result := by
  show (andThen x f).result = _
  unfold andThen
  cases x.result <;> rfl

/-- A sequence returns something if both parts do. -/
theorem result_bind_eq_ok {α β : Type} {x : Logged α} {f : α → Logged β} {b : β} :
    (x >>= f).result = .ok b ↔ ∃ a, x.result = .ok a ∧ (f a).result = .ok b := by
  rw [result_bind]
  cases x.result <;> simp [Except.bind]

/-- A result that is put into a form is there exactly if it is there without the form. -/
theorem result_bind_pure_eq_ok {α β : Type} {x : Logged α} {f : α → β} {b : β} :
    (x >>= fun a => pure (f a)).result = .ok b ↔ ∃ a, x.result = .ok a ∧ f a = b := by
  simp only [result_bind_eq_ok, result_pure, Except.ok.injEq]

/-- A sequence reports the events of both parts in order, or of the first alone if it fails. -/
theorem events_bind {α β : Type} (x : Logged α) (f : α → Logged β) :
    (x >>= f).events = x.events ++ match x.result with
      | .ok a => (f a).events
      | .error _ => [] := by
  show (andThen x f).events = _
  unfold andThen
  cases x.result <;> simp

instance : LawfulMonad Logged :=
  LawfulMonad.mk' Logged
    (fun x => by
      rcases x with ⟨result, events⟩
      cases result <;> simp [Functor.map, andThen, done])
    (fun _ _ => rfl)
    (fun x f g => by
      rcases x with ⟨result, events⟩
      cases result with
      | error fault => rfl
      | ok a =>
        simp only [bind, andThen]
        cases (f a).result <;> simp)

/-- An operation for every element of a list, in order. -/
def each {α β : Type} (f : α → Logged β) : List α → Logged (List β)
  | [] => pure []
  | a :: rest => do
    let b ← f a
    let bs ← each f rest
    pure (b :: bs)

end Logged

/-- What stands for a value in a text, together with what taking it reports. -/
abbrev Rendering := Value → Logged String

namespace Rendering

/-- The rendering where no value refers to a statement. -/
def static : Rendering := fun v => pure (v.formatted .blank)

/-- The text of a value by itself: for a value of another type that is its plain form, and for
every other value what stands for it in a text. -/
def plain (text : Rendering) : Rendering
  | .object o => pure o.plain
  | v => text v

/-- What counts as text is put into a text by itself. -/
theorem plain_of_isText (text : Rendering) {v : Value} (h : v.isText = true) :
    plain text v = text v := by
  cases v with
  | object o => exact absurd h Bool.false_ne_true
  | _ => rfl

end Rendering

end SqlCompose
