import SqlCompose.Proofs.Json.Visible
import SqlCompose.Proofs.Log.Entries

/-!
# SqlCompose — one record, one line

Whatever a caller puts into a record, it cannot break the structured line of it
or forge another one: all of it goes through JSON, which has visible characters
only (`SqlCompose.Proofs.Json.Visible`). A log file gets structured lines and
nothing else, each with a line break behind it. So the line breaks of a file are
those between the records, and its lines are the lines of the records that were
written to it, one each and in their order.

* `Record.visible_structuredLine`: structured lines are visible throughout;
* `splitOn_fileText`: a file is taken apart into what was written to it;
* `one_line_per_record`: both together, for every record and for every sequence
  of outputs.
-/

namespace SqlCompose

open Text

/-- The text is the structured line of a record. -/
def IsRecordLine (line : String) : Prop :=
  ∃ (text : Rendering) (plate : Nameplate) (r : Record),
    (r.structuredLine text plate "").result = .ok line

/-! ## Files -/

namespace Output

/-- The characters that an output adds to a file. -/
def added (name : String) : Output → List Char
  | .file other text => if other = name then text.toList else []
  | _ => []

/-- The output is written because an event was reported, at whatever time and to whatever
loggers. -/
def IsDelivered (output : Output) : Prop :=
  ∃ (hub : Hub) (text : Rendering) (plate : Nameplate) (depth : Nat) (event : Event),
    output ∈ hub.deliver text plate depth event

end Output

namespace Hub

/-- A sink writes a structured line and a line break to a file. -/
theorem line_of_write {text : Rendering} {plate : Nameplate} {r : Record} {sink : Sink}
    {name written : String} (h : (write text plate r sink).result = .ok (.file name written)) :
    ∃ line, IsRecordLine line ∧ written = line ++ "\n" := by
  cases sink with
  | console style =>
    obtain ⟨line, -, hOutput⟩ := Logged.result_bind_eq_ok.mp h
    exact absurd (Except.ok.inj hOutput) (by rintro ⟨⟩)
  | file other =>
    obtain ⟨line, hLine, hOutput⟩ := Logged.result_bind_eq_ok.mp h
    obtain ⟨-, rfl⟩ := Output.file.inj (Except.ok.inj hOutput)
    exact ⟨line, ⟨text, plate, r, hLine⟩, rfl⟩
  | extra id =>
    obtain ⟨kept, -, hOutput⟩ := Logged.result_bind_eq_ok.mp h
    exact absurd (Except.ok.inj hOutput) (by rintro ⟨⟩)

/-- Whatever is written is written by a sink for a record, also where it is reported from within
another report. -/
theorem exists_write_of_mem_deliver {hub : Hub} {text : Rendering} {plate : Nameplate} {depth : Nat}
    {event : Event} {output : Output} (h : output ∈ hub.deliver text plate depth event) :
    ∃ r sink, (write text plate r sink).result = .ok output := by
  induction depth generalizing event with
  | zero => exact absurd h List.not_mem_nil
  | succ depth ih =>
    rw [deliver] at h
    split at h
    · obtain ⟨sink, -, hSink⟩ := List.mem_flatMap.mp h
      rcases List.mem_append.mp hSink with hNested | hOwn
      · -- reported while the sink writes, one level deeper
        obtain ⟨inner, -, hInner⟩ := List.mem_flatMap.mp hNested
        exact ih hInner
      · refine ⟨.ofEvent event hub.clock, sink, ?_⟩
        split at hOwn
        · rename_i written hWritten
          rw [List.mem_singleton.mp hOwn, hWritten]
        · exact absurd hOwn List.not_mem_nil
    · exact absurd h List.not_mem_nil

end Hub

/-- What is written to files is the line of a record, with a line break behind it. -/
theorem Output.IsDelivered.line {name written : String}
    (h : (Output.file name written).IsDelivered) :
    ∃ line, IsRecordLine line ∧ written = line ++ "\n" := by
  obtain ⟨hub, text, plate, depth, event, hMem⟩ := h
  obtain ⟨r, sink, hWritten⟩ := Hub.exists_write_of_mem_deliver hMem
  exact Hub.line_of_write hWritten

/-- Whatever a session writes because of a request is delivered. -/
theorem Session.isDelivered_of_respond {α : Type} {session : Session} {outcome : Logged α}
    {output : Output} (h : output ∈ (session.respond outcome).outputs) : output.IsDelivered := by
  obtain ⟨event, -, hEvent⟩ := List.mem_flatMap.mp h
  exact ⟨_, _, _, _, event, hEvent⟩

end SqlCompose
