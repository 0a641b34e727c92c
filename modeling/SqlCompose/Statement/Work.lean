import SqlCompose.Logged

/-!
# SqlCompose — work on a statement

Work on a statement looks at it, changes it, reports, and returns something or
fails. A change is made when its turn comes and is not taken back: if a later
part of the work fails, the statement is left as it was at that moment. So
whether a failure leaves something behind depends on what was done before it.

* `Work.require_bind`: what follows a check is done if the check does not fail.
* `Work.replace_eq`: what replacing something does, and when it is reported.
-/

namespace SqlCompose

/-- Work on a statement: what it leaves of the statement, and what it returns and reports. -/
def Work (σ α : Type) : Type := σ → σ × Logged α

namespace Work

variable {σ α β : Type}

/-- Returns something that is there already. -/
def done (a : α) : Work σ α := fun s => (s, pure a)

/-- One part of the work after another; a failure ends the sequence, with the statement as it is
then. -/
def andThen (work : Work σ α) (next : α → Work σ β) : Work σ β := fun s =>
  match (work s).2.result with
  | .ok a =>
    ((next a (work s).1).1,
      ⟨(next a (work s).1).2.result, (work s).2.events ++ (next a (work s).1).2.events⟩)
  | .error fault => ((work s).1, ⟨.error fault, (work s).2.events⟩)

instance : Monad (Work σ) where
  pure := done
  bind := andThen

/-- Looks at the statement. -/
def look : Work σ σ := fun s => (s, pure s)

/-- Takes over what was returned and reported elsewhere. -/
def ofLogged (outcome : Logged α) : Work σ α := fun s => (s, outcome)

/-- Requires that a check does not fail. -/
def require (check : Except Fault α) : Work σ α := ofLogged (.ofExcept check)

/-- Reports an event. -/
def report (event : Event) : Work σ Unit := ofLogged (.report event)

/-- Changes the statement. -/
def change (f : σ → σ) : Work σ Unit := fun s => (f s, pure ())

/-- Replaces something that the statement holds; unless it is null so far, that is reported. -/
def replace (held : σ → Value) (notice : σ → Event) (f : σ → σ) : Work σ Unit := do
  let s ← look
  if (held s).isNull then pure () else report (notice s)
  change f

/-- What follows a check is done if the check does not fail. -/
theorem require_bind (check : Except Fault α) (next : α → Work σ β) (s : σ) :
    (require check >>= next) s =
      match check with
      | .ok a => next a s
      | .error fault => (s, ⟨.error fault, []⟩) := by
  cases check <;> rfl

/-- Replacing always succeeds, and is reported if there was something to replace. -/
theorem replace_eq (held : σ → Value) (notice : σ → Event) (f : σ → σ) (s : σ) :
    replace held notice f s = (f s, ⟨.ok (), if (held s).isNull then [] else [notice s]⟩) := by
  -- looking leaves the statement as it is, and reports nothing
  show (if (held s).isNull = true then change f else report (notice s) >>= fun _ => change f) s = _
  cases (held s).isNull <;> rfl

end Work

end SqlCompose
