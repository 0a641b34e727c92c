import Mathlib.Data.List.Perm.Basic
import SqlCompose.Proofs.Log.Nested

/-!
# SqlCompose — every record goes to every sink once

A record that the loggers take is handed to one sink after the other. Each of
them writes it or, if no line can be made of it, drops it; and each of them may
bring about further records while it writes. So what one sink gets is not simply
what it writes for the record: the other sinks have their part in it, and the
order is not that in which the records were made.

`Hub.created` are the events of which records are made: the event itself, and
what is reported while its record is written. Where the sinks stand at different
places, each place gets exactly one output for each of these records, if the
sink there can write it, and no place gets anything else.

* `Hub.deliver_perm`: one place, by induction on the depth of reports;
* `Hub.exists_sink_of_mem_deliver`: no other places.
-/

namespace SqlCompose

/-! ## Places -/

/-- What a sink writes to. Two sinks at one place cannot be told apart by what is written. -/
inductive Place where
  | console
  | file (name : String)
  | extra (id : Nat)
  deriving DecidableEq

def Sink.place : Sink → Place
  | .console _ => .console
  | .file name => .file name
  | .extra id => .extra id

def Output.place : Output → Place
  | .console _ => .console
  | .file name _ => .file name
  | .kept id _ => .extra id

namespace Hub

variable {hub : Hub} {text : Rendering} {plate : Nameplate}

/-- A sink writes to its own place. -/
theorem place_of_write {r : Record} {sink : Sink} {output : Output}
    (h : (write text plate r sink).result = .ok output) : output.place = sink.place := by
  cases sink
  all_goals
    obtain ⟨written, -, hOutput⟩ := Logged.result_bind_eq_ok.mp h
    rw [← Except.ok.inj hOutput]
    rfl

/-- What a sink writes for an event; nothing if it cannot write the record. -/
def written? (hub : Hub) (text : Rendering) (plate : Nameplate) (sink : Sink) (event : Event) :
    Option Output :=
  (write text plate (.ofEvent event hub.clock) sink).result.toOption

theorem written?_eq_some {sink : Sink} {event : Event} {output : Output} :
    hub.written? text plate sink event = some output ↔
      (write text plate (.ofEvent event hub.clock) sink).result = .ok output := by
  rw [written?]
  cases (write text plate (.ofEvent event hub.clock) sink).result <;> simp [Except.toOption]

/-- The events of which records are made when an event is reported: the event itself, if its level
reaches the level in force, and what is reported while its record is written. -/
def created (hub : Hub) (text : Rendering) (plate : Nameplate) : Nat → Event → List Event
  | 0, _ => []
  | depth + 1, event =>
    if hub.isEnabled event.logger event.level.rank then
      event :: (hub.reached event.logger).flatMap fun sink =>
        (write text plate (.ofEvent event hub.clock) sink).events.flatMap
          (hub.created text plate depth)
    else []

/-- The sinks of the namespace stand at different places, and nothing is handed on. -/
structure IsClosed (hub : Hub) : Prop where
  places : (hub.sinks.map Sink.place).Nodup
  propagate : hub.propagate = false

/-- What is reported below the root of a closed namespace reaches the sinks there and no others. -/
theorem IsClosed.reached_eq (h : hub.IsClosed) {event : Event} (hBelow : event.IsBelow) :
    hub.reached event.logger = hub.sinks := by
  have hLineage : (hub.lineage event.logger).contains namespaceName = true :=
    List.contains_iff_mem.mpr (hBelow hub)
  rw [reached, if_pos hLineage, h.propagate]
  exact List.append_nil _

/-- What one sink after the other does for an event: first what is reported while it writes, then
what it writes. -/
theorem deliver_succ (h : hub.IsClosed) (depth : Nat) {event : Event} (hBelow : event.IsBelow)
    (hTaken : hub.isEnabled event.logger event.level.rank = true) :
    hub.deliver text plate (depth + 1) event = hub.sinks.flatMap fun sink =>
      (write text plate (.ofEvent event hub.clock) sink).events.flatMap
          (hub.deliver text plate depth)
        ++ (hub.written? text plate sink event).toList := by
  rw [deliver, if_pos hTaken, h.reached_eq hBelow]
  refine List.flatMap_congr fun sink _ => ?_
  dsimp only
  rw [written?]
  cases (write text plate (.ofEvent event hub.clock) sink).result <;> rfl

theorem created_succ (h : hub.IsClosed) (depth : Nat) {event : Event} (hBelow : event.IsBelow)
    (hTaken : hub.isEnabled event.logger event.level.rank = true) :
    hub.created text plate (depth + 1) event = event :: hub.sinks.flatMap fun sink =>
      (write text plate (.ofEvent event hub.clock) sink).events.flatMap
        (hub.created text plate depth) := by
  rw [created, if_pos hTaken, h.reached_eq hBelow]

/-- Of sinks at different places one is at the place of a given one: this one itself. -/
theorem flatMap_at_place {β : Type} {sinks : List Sink} (hPlaces : (sinks.map Sink.place).Nodup)
    {sink : Sink} (hSink : sink ∈ sinks) (f : Sink → List β) :
    (sinks.flatMap fun other => if other.place = sink.place then f other else []) = f sink := by
  induction sinks with
  | nil => exact absurd hSink List.not_mem_nil
  | cons first rest ih =>
    rw [List.map_cons, List.nodup_cons] at hPlaces
    rw [List.flatMap_cons]
    rcases List.mem_cons.mp hSink with rfl | hRest
    · have hOthers : (rest.flatMap fun other =>
          if other.place = sink.place then f other else []) = [] := by
        refine List.flatMap_eq_nil_iff.mpr fun other hOther => if_neg fun hSame => ?_
        exact hPlaces.1 (hSame ▸ List.mem_map_of_mem hOther)
      rw [if_pos rfl, hOthers, List.append_nil]
    · have hFirst : first.place ≠ sink.place := by
        intro hSame
        exact hPlaces.1 (hSame ▸ List.mem_map_of_mem hRest)
      rw [if_neg hFirst, List.nil_append, ih hPlaces.2 hRest]

/-- Of what a sink writes for an event, all is at its own place. -/
theorem filter_written (sink other : Sink) (event : Event) :
    ((hub.written? text plate other event).toList.filter
        fun output => output.place = sink.place) =
      if other.place = sink.place then (hub.written? text plate other event).toList else [] := by
  rw [written?]
  cases hResult : (write text plate (.ofEvent event hub.clock) other).result with
  | error fault => simp [Except.toOption]
  | ok output => simp [Except.toOption, place_of_write hResult, List.filter_cons]

/-- **Each place gets each record once**: the outputs at the place of a sink are what the sink
writes for the records that are made, in some order. -/
theorem deliver_perm (h : hub.IsClosed)
    (hNested : ∀ r sink, (write text plate r sink).Within Event.IsBelow) {sink : Sink}
    (hSink : sink ∈ hub.sinks) (depth : Nat) {event : Event} (hBelow : event.IsBelow) :
    ((hub.deliver text plate depth event).filter fun output => output.place = sink.place).Perm
      ((hub.created text plate depth event).filterMap (hub.written? text plate sink)) := by
  induction depth generalizing event with
  | zero => exact .refl _
  | succ depth ih =>
    by_cases hTaken : hub.isEnabled event.logger event.level.rank = true
    · -- the sink's own output, and what is reported while the sinks write, one by one
      let nested := fun other : Sink =>
        (write text plate (.ofEvent event hub.clock) other).events
      have hOwn : (hub.sinks.flatMap fun other =>
          (hub.written? text plate other event).toList.filter
            fun output => output.place = sink.place) =
          (hub.written? text plate sink event).toList := by
        simp only [filter_written]
        exact flatMap_at_place h.places hSink _
      have hInner : ∀ other, (((nested other).flatMap (hub.deliver text plate depth)).filter
            fun output => output.place = sink.place).Perm
          (((nested other).flatMap (hub.created text plate depth)).filterMap
            (hub.written? text plate sink)) := by
        intro other
        rw [List.filter_flatMap, List.filterMap_flatMap]
        exact List.Perm.flatMap_left _ fun inner hInner => ih (hNested _ other inner hInner)
      rw [deliver_succ h depth hBelow hTaken, created_succ h depth hBelow hTaken,
        List.filter_flatMap, List.filterMap_cons]
      simp only [List.filter_append]
      -- sink by sink stands what is reported and what is written; the two are sorted apart
      refine (List.flatMap_append_perm _ _ _).symm.trans ?_
      rw [hOwn]
      refine List.perm_append_comm.trans ?_
      rw [List.filterMap_flatMap]
      have hAll := List.Perm.flatMap_left hub.sinks fun other _ => hInner other
      cases hub.written? text plate sink event with
      | none => exact hAll
      | some output => exact hAll.cons output
    · rw [deliver, created, if_neg hTaken, if_neg hTaken]
      exact .refl _

/-- **No other place gets anything.** -/
theorem exists_sink_of_mem_deliver (h : hub.IsClosed)
    (hNested : ∀ r sink, (write text plate r sink).Within Event.IsBelow) {depth : Nat}
    {event : Event} (hBelow : event.IsBelow) {output : Output}
    (hOutput : output ∈ hub.deliver text plate depth event) :
    ∃ sink ∈ hub.sinks, output.place = sink.place := by
  induction depth generalizing event with
  | zero => exact absurd hOutput List.not_mem_nil
  | succ depth ih =>
    by_cases hTaken : hub.isEnabled event.logger event.level.rank = true
    · rw [deliver_succ h depth hBelow hTaken] at hOutput
      obtain ⟨sink, hSink, hBySink⟩ := List.mem_flatMap.mp hOutput
      rcases List.mem_append.mp hBySink with hInner | hOwn
      · obtain ⟨inner, hMem, hInner⟩ := List.mem_flatMap.mp hInner
        exact ih (hNested _ sink inner hMem) hInner
      · exact ⟨sink, hSink, place_of_write (written?_eq_some.mp (Option.mem_toList.mp hOwn))⟩
    · rw [deliver, if_neg hTaken] at hOutput
      exact absurd hOutput List.not_mem_nil

end Hub

end SqlCompose
