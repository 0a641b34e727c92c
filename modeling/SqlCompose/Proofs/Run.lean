import SqlCompose.Statement.Call

/-!
# SqlCompose — runs of calls

A run is a sequence of calls made one after the other, each on what the call
before it left. Calls that fail are part of a run: they have an answer and may
leave something behind, like any other call.

A call that asks for a change makes it and is answered with the statement, or is
refused and changes nothing (`Answer.stateOf`, `Answer.resultOf`).

What is said about a run is said about its history: the list of what is noted of
its calls, each in the state that it finds (`Run.noted`). The calls that were
accepted (`Run.accepted`) are one such history, the places that were filled in
are another.

* `Run.after_append`, `Run.noted_append`: a run may be cut anywhere.
* `Run.induction_on_last`: what one more call keeps holds after every run.
-/

namespace SqlCompose

/-! ## Answers -/

namespace Answer

variable {σ : Type}

/-- What is left when a change is made or, if it is refused, not made. -/
def stateOf (change : Except Fault (σ → σ)) (s : σ) : σ :=
  match change with
  | .ok f => f s
  | .error _ => s

/-- The answer to a change: the statement itself, or why it is refused. -/
def resultOf (change : Except Fault (σ → σ)) : Except Fault Reply := change.map fun _ => .chained

/-- A call is answered with the statement itself whenever the work for it succeeds. -/
theorem result_worked (s : σ) (work : Work σ Unit) :
    (worked s work).reply.result = (work s).2.result.map fun _ => .chained := by
  rw [worked, Logged.result_bind]
  cases (work s).2.result with
  | ok done => rfl
  | error fault => rfl

/-- Work that checks an argument and then makes a change is answered by the change. -/
theorem worked_require_change {α : Type} (argument : Except Fault α) (f : α → σ → σ) (s : σ) :
    let answer := worked s (Work.require argument >>= fun a => Work.change (f a))
    answer.state = stateOf (argument.map f) s ∧
      answer.reply.result = resultOf (argument.map f) := by
  cases argument with
  | ok a => exact ⟨rfl, rfl⟩
  | error fault => exact ⟨rfl, rfl⟩

/-- Replacing something always succeeds. -/
theorem worked_replace (held : σ → Value) (notice : σ → Event) (f : σ → σ) (s : σ) :
    let answer := worked s (Work.replace held notice f)
    answer.state = f s ∧ answer.reply.result = .ok .chained := by
  refine ⟨?_, ?_⟩
  · show (Work.replace held notice f s).1 = f s
    rw [Work.replace_eq]
  · rw [result_worked, Work.replace_eq]
    rfl

/-- A change that is answered with the statement itself has an argument that was accepted. -/
theorem exists_of_isOk {α : Type} {argument : Except Fault α} {f : α → σ → σ}
    (h : (resultOf (argument.map f)).isOk = true) : ∃ a, argument = .ok a := by
  cases argument with
  | ok a => exact ⟨a, rfl⟩
  | error fault => cases h

/-- Building answers with the text, or with why there is none. -/
theorem result_built (s : σ) (outcome : Logged String) :
    (built s outcome).reply.result = outcome.result.map .built := by
  rw [built, Logged.result_bind]
  cases outcome.result with
  | ok sql => rfl
  | error fault => rfl

/-- A text is the answer exactly if it was built. -/
theorem result_built_eq_ok {s : σ} {outcome : Logged String} {sql : String} :
    (built s outcome).reply.result = .ok (.built sql) ↔ outcome.result = .ok sql := by
  rw [result_built]
  cases outcome.result with
  | ok sql' => simp [Except.map]
  | error fault => simp [Except.map]

end Answer

/-! ## Runs -/

namespace Run

variable {σ α β : Type} (apply : σ → α → Answer σ)

/-- What a run leaves. -/
def after (s : σ) (calls : List α) : σ :=
  calls.foldl (fun state call => (apply state call).state) s

/-- What is noted of the calls of a run, each in the state that it finds. -/
def noted (note : σ → α → List β) : σ → List α → List β
  | _, [] => []
  | s, call :: rest => note s call ++ noted note (apply s call).state rest

/-- A call is accepted if it does not fail. -/
def isAccepted (s : σ) (call : α) : Bool := (apply s call).reply.result.isOk

/-- The calls of a run that were accepted. -/
def accepted (s : σ) (calls : List α) : List α :=
  noted apply (fun state call => if isAccepted apply state call then [call] else []) s calls

/-! ## Cutting a run -/

@[simp] theorem after_cons (s : σ) (call : α) (rest : List α) :
    after apply s (call :: rest) = after apply (apply s call).state rest := rfl

/-- A run can be cut at any call. -/
theorem after_append (s : σ) (first second : List α) :
    after apply s (first ++ second) = after apply (after apply s first) second := by
  rw [after, List.foldl_append]
  rfl

@[simp] theorem noted_nil (note : σ → α → List β) (s : σ) : noted apply note s [] = [] := rfl

@[simp] theorem noted_cons (note : σ → α → List β) (s : σ) (call : α) (rest : List α) :
    noted apply note s (call :: rest) = note s call ++ noted apply note (apply s call).state rest :=
  rfl

/-- So can what is noted of it. -/
theorem noted_append (note : σ → α → List β) (s : σ) (first second : List α) :
    noted apply note s (first ++ second) =
      noted apply note s first ++ noted apply note (after apply s first) second := by
  induction first generalizing s with
  | nil => rfl
  | cons call rest ih =>
    -- the second part starts where the first one stopped
    rw [List.cons_append, noted_cons, ih, noted_cons, after_cons, List.append_assoc]

/-- The last call of a run is noted in the state that the calls before it left. -/
theorem noted_concat (note : σ → α → List β) (s : σ) (calls : List α) (call : α) :
    noted apply note s (calls ++ [call]) =
      noted apply note s calls ++ note (after apply s calls) call := by
  rw [noted_append, noted_cons, noted_nil, List.append_nil]

/-! ## Invariants -/

/-- What holds of no calls, and of one call more whenever it holds of some, holds of every run. -/
theorem induction_on_last {start : σ} {inv : List α → σ → Prop} {calls : List α}
    (hStart : inv [] start)
    (hStep : ∀ done, ∀ call ∈ calls, inv done (after apply start done) →
      inv (done ++ [call]) (apply (after apply start done) call).state) :
    inv calls (after apply start calls) := by
  -- the calls that are done grow, those that are left shrink
  have hRest : ∀ rest done, (∀ call ∈ rest, call ∈ calls) →
      inv done (after apply start done) →
      inv (done ++ rest) (after apply start (done ++ rest)) := by
    intro rest
    induction rest with
    | nil =>
      intro done _ h
      rw [List.append_nil]
      exact h
    | cons call rest ih =>
      intro done hMem h
      -- the first call that is left is the last one that is done
      have hNext := hStep done call (hMem call (List.mem_cons_self ..)) h
      have hAfter : after apply start (done ++ [call]) =
          (apply (after apply start done) call).state := by
        rw [after_append]
        rfl
      rw [← hAfter] at hNext
      have hAll := ih (done ++ [call]) (fun c hc => hMem c (List.mem_cons_of_mem _ hc)) hNext
      rw [List.append_assoc] at hAll
      exact hAll
  exact hRest calls [] (fun _ h => h) hStart

/-! ## Accepted calls -/

/-- A call is noted among the accepted ones exactly if it does not fail. -/
theorem accepted_cons (s : σ) (call : α) (rest : List α) :
    accepted apply s (call :: rest) =
      (if isAccepted apply s call then [call] else []) ++
        accepted apply (apply s call).state rest := rfl

/-- Only calls that were made are accepted. -/
theorem mem_of_mem_accepted {s : σ} {calls : List α} {call : α}
    (h : call ∈ accepted apply s calls) : call ∈ calls := by
  induction calls generalizing s with
  | nil => cases h
  | cons first rest ih =>
    rw [accepted_cons, List.mem_append] at h
    rcases h with hFirst | hRest
    · split at hFirst
      · rw [List.mem_singleton] at hFirst
        exact hFirst ▸ List.mem_cons_self ..
      · cases hFirst
    · exact List.mem_cons_of_mem _ (ih hRest)

end Run

end SqlCompose
