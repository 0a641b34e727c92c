import Mathlib.Data.List.Induction
import Mathlib.Data.List.Nodup
import SqlCompose.Proofs.Log.Delivery
import SqlCompose.Proofs.Log.Entries

/-!
# SqlCompose — delivery after configurations

A configuration replaces the sinks of the namespace: the console, a file if it
names one, and each further sink once, however often it is listed. Between two
configurations only levels change. So at every moment the sinks are those of the
latest configuration alone, and what is reported goes to each of them once,
whatever was configured before and whatever the loggers are called.

The result is about records that are made and of which the sink can make a line,
and about loggers below the root of the namespace. A sink drops a record that it
cannot write, and a logger with a dot in front of its name need not be below the
root: in neither case does a record get to the console
(`Session.unwritten_records`).

* `Hub.configure_eq`: what an accepted configuration makes of the loggers;
* `Session.holds_performAll`: the sinks after a run, by induction on its calls;
* `Session.written_once`: what a call at the end of a run writes, and where.
-/

namespace SqlCompose

/-! ## Configurations -/

namespace Hub

namespace Configuration

/-- A configuration is accepted if its level has a rank and its file is the name of one, or none. -/
def IsAccepted (settings : Configuration) : Prop :=
  ∃ rank file, configuredRank settings.level = .ok rank ∧ fileOf settings.file = .ok file

/-- The file that a configuration names, if it names one. -/
def file? (settings : Configuration) : Option String := (fileOf settings.file).toOption.join

/-- The sinks that a configuration asks for: the console, the file, and each of the further ones
once. -/
def sinks (settings : Configuration) : List Sink :=
  .console (styleOf settings.style) ::
    (settings.file?.toList.map Sink.file ++ settings.extras.eraseDups.map Sink.extra)

/-- The sinks of a configuration for which a file was opened. -/
def sinksWith (settings : Configuration) (opened : Option String) : List Sink :=
  .console (styleOf settings.style) ::
    (opened.toList.map Sink.file ++ settings.extras.eraseDups.map Sink.extra)

/-- The number of sinks that a configuration asks for. -/
theorem length_sinks (settings : Configuration) :
    settings.sinks.length =
      1 + settings.file?.toList.length + settings.extras.eraseDups.length := by
  rw [sinks, List.length_cons, List.length_append, List.length_map, List.length_map]
  omega

end Configuration

/-- A repeated sink is not added again, a new one is added at the end. -/
theorem eraseDups_concat (ids : List Nat) (id : Nat) :
    (ids ++ [id]).eraseDups = if id ∈ ids then ids.eraseDups else ids.eraseDups ++ [id] := by
  have hOne : ([id] : List Nat).eraseDups = [id] := by simp [List.eraseDups_cons]
  rw [List.eraseDups_append]
  by_cases h : id ∈ ids
  · simp [h, List.removeAll]
  · simp [h, List.removeAll, hOne]

/-- What is left without repetitions has none. -/
theorem nodup_eraseDups (ids : List Nat) : ids.eraseDups.Nodup := by
  induction ids using List.reverseRecOn with
  | nil => exact List.nodup_nil
  | append_singleton ids id ih =>
    rw [eraseDups_concat]
    split
    · exact ih
    · rename_i hNew
      rw [← List.concat_eq_append]
      exact ih.concat fun hMem => hNew (List.mem_eraseDups.mp hMem)

/-- The sinks of a configuration stand at different places. -/
theorem Configuration.places_nodup (settings : Configuration) :
    (settings.sinks.map Sink.place).Nodup := by
  have hFile : ((settings.file?.toList.map Sink.file).map Sink.place).Nodup := by
    cases settings.file? <;> simp
  have hExtras : ((settings.extras.eraseDups.map Sink.extra).map Sink.place).Nodup := by
    rw [List.map_map]
    exact (nodup_eraseDups _).map fun a b h => Place.extra.inj h
  have hApart : ∀ place ∈ (settings.file?.toList.map Sink.file).map Sink.place,
      ∀ other ∈ (settings.extras.eraseDups.map Sink.extra).map Sink.place, place ≠ other := by
    simp only [List.map_map, List.mem_map, Function.comp_apply]
    rintro _ ⟨name, -, rfl⟩ _ ⟨id, -, rfl⟩ ⟨⟩
  rw [sinks, List.map_cons, List.map_append, List.nodup_cons]
  refine ⟨?_, List.nodup_append.mpr ⟨hFile, hExtras, hApart⟩⟩
  simp only [List.map_map, List.mem_append, List.mem_map, Function.comp_apply]
  rintro (⟨name, -, ⟨⟩⟩ | ⟨id, -, ⟨⟩⟩)

/-- Sinks of the caller's own are added once each. -/
theorem addSinks_eq (hub : Hub) (ids : List Nat) (h : ∀ id, Sink.extra id ∉ hub.sinks) :
    ids.foldl (fun h id => h.addSink (.extra id)) hub =
      { hub with sinks := hub.sinks ++ ids.eraseDups.map Sink.extra } := by
  induction ids using List.reverseRecOn with
  | nil => simp
  | append_singleton ids id ih =>
    have hMem : (hub.sinks ++ ids.eraseDups.map Sink.extra).contains (Sink.extra id) = true ↔
        id ∈ ids := by
      simp [h id, List.mem_eraseDups]
    rw [List.foldl_append, ih, List.foldl_cons, List.foldl_nil, addSink, eraseDups_concat]
    simp only [hMem]
    split
    · rfl
    · simp

/-- Logging a message of an integer level reports the message, if the logger takes it. -/
theorem log_int (hub : Hub) (name : String) {level : Value} {rank : Int} (message : Value)
    (fields : List (Value × Value)) (h : level.int? = some rank) :
    hub.log name level message fields =
      if hub.isEnabled name rank = true then
        Logged.report
          (.withFields name ⟨rank, Level.nameOf rank (level.plain .blank)⟩ message fields)
      else pure () := by
  rw [log, isEnabledFor_int hub name h]
  cases hub.isEnabled name rank with
  | true =>
    simp only [h]
    rfl
  | false => rfl

/-- The console, the file and the further sinks, put in one after the other. -/
theorem addAllSinks_eq (hub : Hub) (settings : Configuration) (rank : Int) (file : Option String) :
    settings.extras.foldl (fun h id => h.addSink (.extra id))
        ((file.map fun name =>
          (hub.restarted rank (styleOf settings.style)).addSink (.file name)).getD
            (hub.restarted rank (styleOf settings.style))) =
      { hub.setRank namespaceName rank with sinks := settings.sinksWith file } := by
  -- the console and the file, before the other sinks
  have hFiled : ((file.map fun name =>
      (hub.restarted rank (styleOf settings.style)).addSink (.file name)).getD
        (hub.restarted rank (styleOf settings.style))) =
      { hub.restarted rank (styleOf settings.style) with
        sinks := .console (styleOf settings.style) :: file.toList.map Sink.file } := by
    cases file <;> rfl
  have hNoExtra : ∀ id, Sink.extra id ∉
      Sink.console (styleOf settings.style) :: file.toList.map Sink.file := by
    simp
  rw [hFiled, addSinks_eq _ settings.extras hNoExtra]
  rfl

/-- What an accepted configuration makes of the loggers, and what it reports. -/
theorem configure_eq (hub : Hub) {settings : Configuration} {rank : Int} {file : Option String}
    (hRank : configuredRank settings.level = .ok rank) (hFile : fileOf settings.file = .ok file) :
    hub.configure settings =
      ({ hub.setRank namespaceName rank with sinks := settings.sinks, propagate := false },
        Logged.report (configuredEvent settings settings.sinks.length)) := by
  have hSinks : settings.sinks = settings.sinksWith file := by
    rw [Configuration.sinks, Configuration.file?, hFile]
    rfl
  rw [configure, configureWith, hRank, hFile, hSinks]
  simp only [addAllSinks_eq]

end Hub

/-! ## Runs -/

/-- A call that concerns the loggers. -/
inductive LogCall where
  | configure (settings : Hub.Configuration)
  | setLevel (name level : Value)
  | log (name : String) (level message : Value) (fields : List (Value × Value))

namespace LogCall

/-- The configuration of a call, if it is one. -/
def settings? : LogCall → Option Hub.Configuration
  | .configure settings => some settings
  | _ => none

/-- The latest configuration among calls. -/
def latest? (calls : List LogCall) : Option Hub.Configuration := calls.reverse.findSome? settings?

/-- A configuration has to be accepted. A message has to have an integer above zero for its level,
and to go to a logger that has no dot in front of its name. -/
def IsRegular : LogCall → Prop
  | .configure settings => settings.IsAccepted
  | .setLevel _ _ => True
  | .log name level _ _ =>
    (∃ rank, level.int? = some rank ∧ 0 < rank) ∧
      LoggerName.hasDotInFront (LoggerName.qualify name) = false

/-- All configurations among calls are accepted. -/
def AllAccepted (calls : List LogCall) : Prop :=
  ∀ settings, .configure settings ∈ calls → settings.IsAccepted

/-- What a call asks the loggers to record. -/
def event? : LogCall → Option Event
  | .configure settings => some (Hub.configuredEvent settings settings.sinks.length)
  | .setLevel _ _ => none
  | .log name level message fields => level.int?.map fun rank =>
    .withFields (LoggerName.qualify name) ⟨rank, Level.nameOf rank (level.plain .blank)⟩ message
      (Value.ofEntries fields)

/-- What the latest call gives is given by the last call, or by those before it. -/
theorem findSome?_reverse_concat {β : Type} (given? : LogCall → Option β) (calls : List LogCall)
    (call : LogCall) :
    (calls ++ [call]).reverse.findSome? given? =
      (given? call).or (calls.reverse.findSome? given?) := by
  rw [List.reverse_append, List.reverse_singleton, List.singleton_append, List.findSome?_cons]
  cases given? call <;> rfl

theorem latest?_concat (calls : List LogCall) (call : LogCall) :
    latest? (calls ++ [call]) = call.settings?.or (latest? calls) :=
  findSome?_reverse_concat settings? calls call

end LogCall

namespace Session

/-- Makes a call that concerns the loggers, and gives what is written because of it. -/
def perform (session : Session) : LogCall → Session × List Output
  | .configure settings =>
    let answer := session.configure settings
    (answer.1, answer.2.outputs)
  | .setLevel name level => ((session.setLevel name level).1, [])
  | .log name level message fields =>
    let answer := session.log (.text name) level message fields
    (answer.1, answer.2.outputs)

/-- The session after calls. -/
def performAll (session : Session) (calls : List LogCall) : Session :=
  calls.foldl (fun session call => (session.perform call).1) session

theorem performAll_concat (session : Session) (calls : List LogCall) (call : LogCall) :
    session.performAll (calls ++ [call]) = ((session.performAll calls).perform call).1 := by
  rw [performAll, List.foldl_append]
  rfl

/-- The loggers are as a configuration has left them, but for levels and for what was decided by
them. -/
structure Holds (session : Session) (settings : Hub.Configuration) : Prop where
  sinks : session.hub.sinks = settings.sinks
  propagate : session.hub.propagate = false
  fresh : session.hub.IsFresh

variable {session : Session} {settings : Hub.Configuration} {call : LogCall}

/-- Nothing is handed on, and no two sinks are at one place. -/
theorem Holds.isClosed (h : session.Holds settings) : session.hub.IsClosed :=
  ⟨by rw [h.sinks]; exact settings.places_nodup, h.propagate⟩

/-- Asking for a logger changes no sinks. -/
theorem Holds.register (h : session.Holds settings) (full : String) :
    (session.register full).Holds settings := by
  obtain ⟨ranks, hRegister⟩ := session.hub.exists_register full
  refine ⟨?_, ?_, h.fresh.register full⟩
  · rw [Session.register, hRegister]
    exact h.sinks
  · rw [Session.register, hRegister]
    exact h.propagate

/-- Giving a logger a level changes no sinks, whether it is accepted or not. -/
theorem Holds.setLevel (h : session.Holds settings) (name level : Value) :
    (session.setLevel name level).1.Holds settings := by
  rw [Session.setLevel]
  split
  · exact h
  · rename_i full _
    have hAsked := h.register full
    cases Hub.rankOfValue level with
    | error fault => exact hAsked
    | ok rank => exact ⟨hAsked.sinks, hAsked.propagate, Hub.isFresh_setRank _ full rank⟩

/-- Nor does reporting a message; what the logger decides on its level is fresh. -/
theorem Holds.log (h : session.Holds settings) (name level message : Value)
    (fields : List (Value × Value)) : (session.log name level message fields).1.Holds settings := by
  rw [Session.log]
  split
  · exact h
  · rename_i full _
    have hAsked := h.register full
    obtain ⟨verdicts, hDecide⟩ := (session.register full).hub.exists_decideOn full level
    refine ⟨?_, ?_, hAsked.fresh.decideOn full level⟩
    · dsimp only
      rw [hDecide]
      exact hAsked.sinks
    · dsimp only
      rw [hDecide]
      exact hAsked.propagate

/-- After one more call the loggers are as the call has configured them, or as they were. -/
theorem holds_perform (hCall : LogCall.AllAccepted [call])
    (hLatest : call.settings? = some settings ∨ call.settings? = none ∧ session.Holds settings) :
    (session.perform call).1.Holds settings := by
  cases call with
  | configure given =>
    obtain ⟨rank, file, hRank, hFile⟩ := hCall given (List.mem_singleton_self _)
    rcases hLatest with hGiven | ⟨hNone, -⟩
    · obtain rfl := Option.some.inj hGiven
      have hHub : (session.perform (.configure given)).1.hub = _ :=
        congrArg Prod.fst (Hub.configure_eq session.hub hRank hFile)
      exact ⟨by rw [hHub], by rw [hHub], by rw [hHub]; exact Hub.isFresh_setRank _ _ _⟩
    · exact absurd hNone (by rintro ⟨⟩)
  | setLevel name level =>
    rcases hLatest with hGiven | ⟨-, hHolds⟩
    · exact absurd hGiven (by rintro ⟨⟩)
    · exact hHolds.setLevel name level
  | log name level message fields =>
    rcases hLatest with hGiven | ⟨-, hHolds⟩
    · exact absurd hGiven (by rintro ⟨⟩)
    · exact hHolds.log (.text name) level message fields

/-- After calls the loggers are as the latest configuration among them has left them. -/
theorem holds_performAll (session : Session) {calls : List LogCall}
    (hCalls : LogCall.AllAccepted calls) (hLatest : LogCall.latest? calls = some settings) :
    (session.performAll calls).Holds settings := by
  induction calls using List.reverseRecOn with
  | nil => exact absurd hLatest (by rintro ⟨⟩)
  | append_singleton calls call ih =>
    have hEarlier : LogCall.AllAccepted calls :=
      fun given hGiven => hCalls given (List.mem_append_left _ hGiven)
    have hCall : LogCall.AllAccepted [call] :=
      fun given hGiven => hCalls given (List.mem_append_right _ hGiven)
    rw [LogCall.latest?_concat] at hLatest
    rw [performAll_concat]
    refine holds_perform hCall ?_
    cases hGiven : call.settings? with
    | none =>
      rw [hGiven, Option.none_or] at hLatest
      exact .inr ⟨rfl, ih hEarlier hLatest⟩
    | some given =>
      rw [hGiven, Option.some_or] at hLatest
      exact .inl hLatest

/-- What is written because of a call is what is written for the event that it asks to record, in
the session after the call. -/
theorem perform_outputs (session : Session) (hCall : call.IsRegular) {event : Event}
    (hEvent : call.event? = some event) :
    let after := (session.perform call).1
    (session.perform call).2 =
      after.hub.deliver after.store.text after.nameplate (after.store.size + 1) event := by
  cases call with
  | configure given =>
    obtain ⟨rank, file, hRank, hFile⟩ := hCall
    obtain rfl := Option.some.inj hEvent
    have hReported := congrArg (fun answer => answer.2.events)
      (Hub.configure_eq session.hub hRank hFile)
    show (session.hub.configure given).1.deliverAll _ _ _ (session.hub.configure given).2.events = _
    rw [show (session.hub.configure given).2.events = _ from hReported]
    exact List.append_nil _
  | setLevel name level => exact absurd hEvent (by rintro ⟨⟩)
  | log name level message fields =>
    obtain ⟨⟨rank, hRank, -⟩, -⟩ := hCall
    rw [LogCall.event?, hRank] at hEvent
    obtain rfl := Option.some.inj hEvent
    intro after
    have hLog := after.hub.log_int (LoggerName.qualify name) message (Value.ofEntries fields) hRank
    show after.hub.deliverAll _ _ _
      (after.hub.log (LoggerName.qualify name) level message (Value.ofEntries fields)).events = _
    rw [hLog]
    split
    · exact List.append_nil _
    · -- what the logger does not take is not delivered either
      rename_i hRefused
      exact (if_neg hRefused).symm

/-- The event of a regular call has a level above zero, and is reported below the root of the
namespace. -/
theorem isBelow_event (hCall : call.IsRegular) {event : Event} (hEvent : call.event? = some event) :
    event.IsBelow ∧ 0 < event.level.rank := by
  cases call with
  | configure given =>
    obtain rfl := Option.some.inj hEvent
    have hDot : LoggerName.hasDotInFront namespaceName = false := by decide
    have hInfo : 0 < Level.info.rank := by decide
    exact ⟨Event.isBelow_of_isInside (.inl rfl) hDot, hInfo⟩
  | setLevel name level => exact absurd hEvent (by rintro ⟨⟩)
  | log name level message fields =>
    obtain ⟨⟨rank, hRank, hPositive⟩, hDots⟩ := hCall
    rw [LogCall.event?, hRank] at hEvent
    obtain rfl := Option.some.inj hEvent
    exact ⟨Event.isBelow_of_isInside (LoggerName.isInside_qualify name) hDots, hPositive⟩

/-- A record is made of an event exactly if its level reaches the level in force. -/
theorem head?_created {hub : Hub} (hFresh : hub.IsFresh) (text : Rendering) (plate : Nameplate)
    (depth : Nat) {event : Event} (hApart : LoggerName.DotsApart event.logger)
    (hPositive : 0 < event.level.rank) :
    (hub.created text plate (depth + 1) event).head? =
      if hub.effectiveRank event.logger ≤ event.level.rank then some event else none := by
  rw [Hub.created, hFresh.isEnabled_eq hApart, Hub.takes, decide_eq_true hPositive, Bool.true_and]
  simp only [decide_eq_true_eq]
  split <;> rfl

/-- **Each record goes to each sink of the latest configuration once.** After calls among which
there is a configuration, a record is made of what a call asks to record exactly if its level
reaches the level in force, where no two dots stand side by side in the name of the logger. At the
place of each sink of the latest configuration there is exactly
one output for each record that is made, unless the sink cannot write it; the console, the file and
each further sink are different places, and nothing is written anywhere else. The report of a
configuration gives the number of these sinks. -/
theorem written_once (session : Session) {calls : List LogCall} {event : Event}
    (hAccepted : LogCall.AllAccepted (calls ++ [call]))
    (hLatest : LogCall.latest? (calls ++ [call]) = some settings) (hCall : call.IsRegular)
    (hEvent : call.event? = some event) :
    let after := session.performAll (calls ++ [call])
    let outputs := ((session.performAll calls).perform call).2
    let created := after.hub.created after.store.text after.nameplate (after.store.size + 1) event
    (LoggerName.DotsApart event.logger → created.head? =
      if after.hub.effectiveRank event.logger ≤ event.level.rank then some event else none) ∧
    (∀ sink ∈ settings.sinks,
      (outputs.filter fun output => output.place = sink.place).Perm
        (created.filterMap (after.hub.written? after.store.text after.nameplate sink))) ∧
    (∀ output ∈ outputs, ∃ sink ∈ settings.sinks, output.place = sink.place) ∧
    (settings.sinks.map Sink.place).Nodup ∧
    (∀ given, call = .configure given → event = Hub.configuredEvent given
      (1 + given.file?.toList.length + given.extras.eraseDups.length)) := by
  have hHolds := holds_performAll session hAccepted hLatest
  have hAfter : session.performAll (calls ++ [call]) =
      ((session.performAll calls).perform call).1 := by
    rw [performAll, List.foldl_append]
    rfl
  have hOutputs := perform_outputs (session.performAll calls) hCall hEvent
  rw [← hAfter] at hOutputs
  obtain ⟨hBelow, hPositive⟩ := isBelow_event hCall hEvent
  have hNested := (session.performAll (calls ++ [call])).below_of_write
  refine ⟨fun hApart => head?_created hHolds.fresh _ _ _ hApart hPositive, ?_, ?_,
    settings.places_nodup, ?_⟩
  · intro sink hSink
    rw [hOutputs]
    exact Hub.deliver_perm hHolds.isClosed hNested (hHolds.sinks ▸ hSink) _ hBelow
  · intro output hOutput
    rw [hOutputs] at hOutput
    rw [← hHolds.sinks]
    exact Hub.exists_sink_of_mem_deliver hHolds.isClosed hNested hBelow hOutput
  · rintro given rfl
    rw [← Hub.Configuration.length_sinks]
    exact (Option.some.inj hEvent).symm

/-- A configuration with a file, and with one further sink listed twice. -/
def filedSettings : Hub.Configuration where
  level := .text "debug"
  file := .text "app.log"
  extras := [3, 3]

/-- Two configurations, and a level between them that is kept. -/
def appRun : List LogCall :=
  [.configure {}, .setLevel (.text "app") (.int 30), .configure filedSettings]

def appWarning : LogCall := .log "app" (.int 40) (.text "kept") [(.text "user", .null)]

theorem written_once_appRun :
    let start : Session := { hub := { clock := 0 } }
    let event := Event.withFields "fluentsql.app" ⟨40, "ERROR"⟩ (.text "kept")
      [(.text "user", .null)]
    let after := start.performAll (appRun ++ [appWarning])
    let outputs := ((start.performAll appRun).perform appWarning).2
    let created := after.hub.created after.store.text after.nameplate 1 event
    created.head? = some event ∧
    ∀ sink ∈ [Sink.console .structured, .file "app.log", .extra 3],
      (outputs.filter fun output => output.place = sink.place).Perm
        (created.filterMap (after.hub.written? after.store.text after.nameplate sink)) := by
  have hAccepted : LogCall.AllAccepted (appRun ++ [appWarning]) := by
    intro given hGiven
    simp only [appRun, appWarning, List.cons_append, List.nil_append, List.mem_cons,
      LogCall.configure.injEq, reduceCtorEq, List.not_mem_nil, or_false, false_or] at hGiven
    rcases hGiven with rfl | rfl
    · exact ⟨20, none, rfl, rfl⟩
    · exact ⟨10, some "app.log", rfl, rfl⟩
  have hCall : appWarning.IsRegular := ⟨⟨40, rfl, by decide⟩, by decide⟩
  have hOnce := written_once { hub := { clock := 0 } } hAccepted rfl hCall rfl
  exact ⟨hOnce.1 (by decide), hOnce.2.1⟩

/-- A console, and an INSERT statement that has no column and so no text. -/
def consoleSession : Session :=
  let insert : Entry :=
    { label := "rows", className := "InsertBuilder", isOpen := false,
      content := .insert { table := .text "t" } }
  ({ store := ⟨[insert]⟩, hub := { clock := 0 } } : Session).performAll [.configure {}]

/-- A report with the statement as a field. -/
def unbuiltEvent : Event :=
  .withFields "fluentsql.app" ⟨40, "ERROR"⟩ (.text "lost") [(.text "rows", .statement 0)]

/-- No line can be made of a record with a field that has no text. -/
theorem write_unbuiltEvent :
    Hub.write consoleSession.store.text consoleSession.nameplate (.ofEvent unbuiltEvent 0)
      (.console .structured) = Logged.fail (.noColumns "t") := by
  have hTime := Record.timeText_start (r := .ofEvent unbuiltEvent 0) rfl
  simp only [Hub.write, Record.lineIn, Record.structuredLine, hTime]
  rfl

/-- Two records that are made and of which the console gets nothing: one of a logger with a dot in
front of its name, and one with a field that has no text. -/
theorem unwritten_records :
    consoleSession.hub.sinks = [.console .structured] ∧
    (consoleSession.hub.isEnabled (LoggerName.qualify ".x") 40 = true ∧
      (consoleSession.perform (.log ".x" (.int 40) (.text "lost") [])).2 = []) ∧
    (consoleSession.hub.isEnabled (LoggerName.qualify "app") 40 = true ∧
      (consoleSession.perform
        (.log "app" (.int 40) (.text "lost") [(.text "rows", .statement 0)])).2 = []) := by
  refine ⟨rfl, ⟨by decide, rfl⟩, by decide, ?_⟩
  -- the console is the only sink, so its part is all that there is
  show ((Hub.write consoleSession.store.text consoleSession.nameplate (.ofEvent unbuiltEvent 0)
    (.console .structured)).events.flatMap _ ++ _ ++ []) ++ [] = []
  rw [write_unbuiltEvent]
  rfl

end Session

end SqlCompose
