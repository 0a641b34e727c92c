import SqlCompose.Proofs.Log.Configured

/-!
# SqlCompose — configurations that break off

A configuration is made step by step: the level is checked and set, the console
takes the place of all sinks, the file is added and then the further sinks, and
in the end nothing is handed on any more. Only the check of the level stands in
front of the first change. A file that cannot be opened, or further sinks that
cannot be gone through, are met when the level and the sinks from before are
gone. What is left then is neither what was there nor what was asked for: the new
level, and of the new sinks those in front of what was refused, while records are
still handed on as before.

The reason for a refusal may lie outside of the library: whether a file can be
opened, and how far sinks can be gone through, is handed in.

Main results:

* `Hub.configureWith_of_break` — the loggers at the step where a configuration
  breaks off.
* `Hub.broken_configuration_leaves_step` — what is left of each part of the
  loggers, whatever the configuration is and however it ends.
* `Hub.refused_configurations_left_console` — three refusals behind the check of
  the level.
-/

namespace SqlCompose

namespace Hub

/-! ## Where a configuration breaks off -/

/-- The step at which a configuration breaks off, and why. -/
inductive Break where
  /-- The level is refused, in front of every change. -/
  | atLevel (fault : Fault)
  /-- The file is refused: the level is set, and the console is there. -/
  | atFile (rank : Int) (fault : Fault)
  /-- Going through the further sinks breaks off: those in front of that are there, and the file. -/
  | atSinks (rank : Int) (file : Option String) (fault : Fault)

/-- Why a configuration breaks off. -/
def Break.fault : Break → Fault
  | atLevel fault => fault
  | atFile _ fault => fault
  | atSinks _ _ fault => fault

/-- The first step that is refused, if there is one. -/
def Configuration.break? (settings : Configuration) (opened : Except Fault (Option String))
    (broken : Option Fault) : Option Break :=
  match configuredRank settings.level, opened with
  | .error fault, _ => some (.atLevel fault)
  | .ok rank, .error fault => some (.atFile rank fault)
  | .ok rank, .ok file => broken.map (.atSinks rank file)

/-- The loggers at the step where a configuration breaks off. -/
def leftAt (hub : Hub) (settings : Configuration) : Break → Hub
  | .atLevel _ => hub
  | .atFile rank _ =>
    { hub.setRank namespaceName rank with sinks := [.console (styleOf settings.style)] }
  | .atSinks rank file _ =>
    { hub.setRank namespaceName rank with sinks := settings.sinksWith file }

variable (hub : Hub) (settings : Configuration) (opened : Except Fault (Option String))
  (broken : Option Fault)

/-- A configuration that breaks off leaves what was done up to then, and reports nothing. -/
theorem configureWith_of_break {stop : Break} (h : settings.break? opened broken = some stop) :
    hub.configureWith settings opened broken =
      (hub.leftAt settings stop, Logged.fail stop.fault) := by
  -- the cases are the steps in their order: each is met only if those before were taken
  unfold Configuration.break? at h
  rw [configureWith]
  cases hLevel : configuredRank settings.level with
  | error fault =>
    rw [hLevel] at h
    cases h
    rfl
  | ok rank =>
    rw [hLevel] at h
    cases hFile : opened with
    | error fault =>
      rw [hFile] at h
      cases h
      rfl
    | ok file =>
      rw [hFile] at h
      obtain ⟨fault, rfl, rfl⟩ := Option.map_eq_some_iff.mp h
      simp only [addAllSinks_eq]
      rfl

/-- A configuration that does not break off succeeds. -/
theorem result_configureWith_of_no_break (h : settings.break? opened broken = none) :
    (hub.configureWith settings opened broken).2.result = .ok () := by
  unfold Configuration.break? at h
  rw [configureWith]
  cases hLevel : configuredRank settings.level with
  | error fault =>
    rw [hLevel] at h
    cases h
  | ok rank =>
    rw [hLevel] at h
    cases hFile : opened with
    | error fault =>
      rw [hFile] at h
      cases h
    | ok file =>
      rw [hFile] at h
      rw [Option.map_eq_none_iff.mp h]
      rfl

/-! ## What is left -/

/-- What is left of the loggers by a configuration that may break off. -/
structure LeavesStep : Prop where
  /-- It fails exactly if it breaks off, and for the reason met there. -/
  result : (hub.configureWith settings opened broken).2.result =
    (settings.break? opened broken).elim (.ok ()) fun stop => .error stop.fault
  /-- A refused level leaves everything as it was. -/
  untouched (fault : Fault) : settings.break? opened broken = some (.atLevel fault) →
    (hub.configureWith settings opened broken).1 = hub
  /-- A refused file leaves the namespace with the new level, and the console for its only sink. -/
  console (rank : Int) (fault : Fault) :
    settings.break? opened broken = some (.atFile rank fault) →
      (hub.configureWith settings opened broken).1.rankOf namespaceName = rank ∧
      (hub.configureWith settings opened broken).1.sinks = [.console (styleOf settings.style)]
  /-- Further sinks that break off leave the new level, the console, the file and the sinks in front
  of that. -/
  front (rank : Int) (file : Option String) (fault : Fault) :
    settings.break? opened broken = some (.atSinks rank file fault) →
      (hub.configureWith settings opened broken).1.rankOf namespaceName = rank ∧
      (hub.configureWith settings opened broken).1.sinks = settings.sinksWith file
  /-- Wherever it breaks off, records are handed on as before, all other loggers have their levels,
  and nothing is reported. -/
  kept (stop : Break) : settings.break? opened broken = some stop →
    (hub.configureWith settings opened broken).1.propagate = hub.propagate ∧
    (∀ name, name ≠ namespaceName →
      (hub.configureWith settings opened broken).1.rankOf name = hub.rankOf name) ∧
    (hub.configureWith settings opened broken).2.events = []

/-- **A configuration that breaks off leaves the step that it has come to.** Nothing is changed only
if it is the level that is refused. -/
theorem broken_configuration_leaves_step : LeavesStep hub settings opened broken where
  result := by
    cases hStop : settings.break? opened broken with
    | none => exact hub.result_configureWith_of_no_break settings opened broken hStop
    | some stop => rw [hub.configureWith_of_break settings opened broken hStop]; rfl
  untouched := fun fault hStop => by
    rw [hub.configureWith_of_break settings opened broken hStop]
    rfl
  console := fun rank fault hStop => by
    rw [hub.configureWith_of_break settings opened broken hStop]
    exact ⟨(hub.rankOf_setRank ..).trans (if_pos rfl), rfl⟩
  front := fun rank file fault hStop => by
    rw [hub.configureWith_of_break settings opened broken hStop]
    exact ⟨(hub.rankOf_setRank ..).trans (if_pos rfl), rfl⟩
  kept := fun stop hStop => by
    rw [hub.configureWith_of_break settings opened broken hStop]
    refine ⟨?_, fun name hOther => ?_, rfl⟩
    · cases stop <;> rfl
    · -- only the namespace itself was given a level
      cases stop with
      | atLevel fault => rfl
      | atFile rank fault => exact (hub.rankOf_setRank ..).trans (if_neg hOther)
      | atSinks rank file fault => exact (hub.rankOf_setRank ..).trans (if_neg hOther)

/-- A file with a null character in its name, a value that names no file, and further sinks that
cannot be gone through. Each of the configurations fails, and level and sinks are not those that
they were. -/
theorem refused_configurations_left_console :
    let hub : Hub := {}
    let named := hub.configure { file := .text "a\x00b" }
    let unnamed := hub.configure { file := .int 5 }
    let listed := hub.configureWith {} (.ok none) (some (.notIterable (.int 5)))
    (hub.rankOf namespaceName = 0 ∧ hub.sinks = []) ∧
    (named.2.result = .error .embeddedNullByte ∧ named.1.rankOf namespaceName = 20 ∧
      named.1.sinks = [.console .structured]) ∧
    (unnamed.2.result = .error (.notPath (.int 5)) ∧ unnamed.1.rankOf namespaceName = 20 ∧
      unnamed.1.sinks = [.console .structured]) ∧
    listed.2.result = .error (.notIterable (.int 5)) ∧ listed.1.rankOf namespaceName = 20 ∧
      listed.1.sinks = [.console .structured] := by
  exact ⟨⟨rfl, rfl⟩, ⟨rfl, rfl, rfl⟩, ⟨rfl, rfl, rfl⟩, rfl, rfl, rfl⟩

end Hub

end SqlCompose
