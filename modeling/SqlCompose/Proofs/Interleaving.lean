import SqlCompose.Proofs.Slots

/-!
# SqlCompose — the order of calls across slots and statements

Several statements may be worked on in turn, and the clauses of each may be
given in any order: two runs that make the same calls in the same order on every
slot of every statement are answered alike and leave the same texts. Building
may happen anywhere in between, and calls may be refused, even after a part of
them was done.

What a request leaves in a statement depends on the calls on that statement
alone (`Store.entry?_after`), and what it leaves in a slot on the calls of that
slot alone. What a request may be refused for, and the names in the message,
depend on what no request changes (`Store.frame`).

Main results:

* `Store.outcomesAt_eq` — setter calls are answered as in the collection that
  the run starts with.
* `Store.after_eq_of_slots` — the calls of each slot determine what a run leaves.
* `Store.interleavings_agree` — both, for two runs.
-/

namespace SqlCompose

/-- A call on a statement of a collection. -/
abbrev Request := StatementRef × Call

namespace Store

/-! ## Requests -/

/-- The answer of a collection to a request; what refers to no statement is refused. -/
def request (store : Store) (r : Request) : Answer Store :=
  match store.entry? r.1 with
  | some entry => store.call r.1 entry r.2
  | none => ⟨store, Logged.fail .circular⟩

/-- What is seen of a request: what it returns, or the error that it raises with its message. -/
def outcome (store : Store) (r : Request) : Except (Fault × String) Reply :=
  (store.request r).reply.result.mapError fun fault => (fault, fault.message store.nameplate)

/-- A request is a setter call on a slot of a statement. -/
def touches (store : Store) (place : StatementRef × Slot) (r : Request) : Bool :=
  r.1 == place.1 &&
    (store.entry? r.1).any fun entry => r.2.slot? entry.content.kind == some place.2

/-- A request sets a column of an INSERT statement. -/
def spansSlots (store : Store) (r : Request) : Bool :=
  (store.entry? r.1).any fun entry => r.2.spansSlots entry.content.kind

/-- What is seen of the setter calls on a slot in a run. -/
def outcomesAt (store : Store) (place : StatementRef × Slot) (run : List Request) :
    List (Except (Fault × String) Reply) :=
  Run.noted request (fun s r => if store.touches place r then [s.outcome r] else []) store run

end Store

/-! ## Single requests -/

/-- A statement that does not know a call is left as it is. -/
theorem Statement.state_apply_of_unknown {s : Statement} {call : Call}
    (h : ¬ s.kind.operations.contains call.name = true) (text : Rendering) :
    (s.apply text call).state = s := by
  cases s with
  | select s =>
    cases call with
    | values items => rfl
    | assign column value => rfl
    | build => rfl
    | joinOf kind table on name => cases kind <;> exact absurd rfl h
    | _ => exact absurd rfl h
  | insert s =>
    cases call with
    | columns items => exact absurd rfl h
    | values items => exact absurd rfl h
    | assign column value => exact absurd rfl h
    | _ => rfl
  | update s =>
    cases call with
    | assign column value => exact absurd rfl h
    | columns items => exact absurd rfl h
    | condition body => exact absurd rfl h
    | _ => rfl
  | delete s =>
    cases call with
    | condition body => exact absurd rfl h
    | _ => rfl

/-- No call changes the table of a statement. -/
theorem Statement.table_apply (text : Rendering) (s : Statement) (call : Call) :
    (s.apply text call).state.table = s.table := by
  -- the table is in every part, and there is a slot that no call on the statement fills
  cases s with
  | select s =>
    have hOnly := Select.only_apply .values text s call
    rw [if_neg (by cases call <;> nofun)] at hOnly
    have hTable := congrArg Select.table hOnly
    exact hTable
  | insert s => exact s.table_apply text call
  | update s =>
    have hOnly := Update.only_apply .limit text s call
    rw [if_neg (by cases call <;> nofun)] at hOnly
    have hTable := congrArg Update.table hOnly
    exact hTable
  | delete s =>
    have hOnly := Delete.only_apply .limit text s call
    rw [if_neg (by cases call <;> nofun)] at hOnly
    have hTable := congrArg Delete.table hOnly
    exact hTable

/-- An entry after a call on its statement. -/
def Entry.step (entry : Entry) (call : Call) : Entry :=
  { entry with content := (entry.content.apply .static call).state }

/-- What no call changes of an entry. -/
def Entry.frame (entry : Entry) : String × StatementKind × Value :=
  (entry.className, entry.content.kind, entry.content.table)

/-- A call changes the content of a statement and nothing else about it. -/
theorem Entry.frame_step (entry : Entry) (call : Call) :
    (entry.step call).frame = entry.frame := by
  rw [frame, step, Statement.kind_apply, Statement.table_apply]
  rfl

namespace Store

/-- Giving a statement another content changes what is found at its place alone. -/
theorem entry?_update (store : Store) (at' ref : StatementRef) (content : Statement) :
    Store.entry? (store.update at' content) ref =
      if at' = ref then (store.entry? ref).map fun entry => { entry with content := content }
      else store.entry? ref := by
  rw [update, entry?, entry?]
  split
  · rename_i hRef
    rw [hRef, List.getElem?_modify_eq]
    rfl
  · rename_i hOther
    exact List.getElem?_modify_ne _ _ hOther

/-- Collections are equal if they have the same at every place. -/
theorem ext_entry? {a b : Store} (h : ∀ ref, a.entry? ref = b.entry? ref) : a = b := by
  have hEntries : a.entries = b.entries := List.ext_getElem? h
  cases a
  cases b
  cases hEntries
  rfl

/-- A request takes one step in the statement that it is about. -/
theorem state_request {store : Store} {r : Request} {entry : Entry}
    (h : store.entry? r.1 = some entry) :
    (store.request r).state = store.update r.1 (entry.step r.2).content := by
  rw [request, h]
  show (store.call r.1 entry r.2).state = _
  rw [Store.call, Entry.step, Statement.state_apply_text .static store.text]
  split
  · rfl
  · -- the call is refused in the name of the class, and the content is put back as it was
    rename_i hUnknown
    rw [Statement.state_apply_of_unknown hUnknown]
    exact (update_self h).symm

/-- A request changes the statement that it is about, and no other. -/
theorem entry?_request (store : Store) (r : Request) (ref : StatementRef) :
    Store.entry? (store.request r).state ref =
      if r.1 = ref then (store.entry? ref).map fun entry => entry.step r.2
      else store.entry? ref := by
  cases hEntry : store.entry? r.1 with
  | none =>
    have hState : (store.request r).state = store := by
      rw [request, hEntry]
    rw [hState]
    split
    · rename_i hRef
      rw [← hRef, hEntry]
      rfl
    · rfl
  | some entry =>
    rw [state_request hEntry, entry?_update]
    split
    · rename_i hRef
      rw [← hRef, hEntry]
      rfl
    · rfl

/-- What no request changes of a collection. -/
def frame (store : Store) : List (String × StatementKind × Value) :=
  store.entries.map Entry.frame

theorem getElem?_frame (store : Store) (ref : StatementRef) :
    store.frame[ref]? = (store.entry? ref).map Entry.frame := by
  rw [frame, List.getElem?_map]
  rfl

/-- No request changes what statements there are and what they are called. -/
theorem frame_request (store : Store) (r : Request) :
    (store.request r).state.frame = store.frame := by
  refine List.ext_getElem? fun ref => ?_
  rw [getElem?_frame, getElem?_frame, entry?_request]
  -- the entry that the request is about takes a step, which keeps its frame
  split
  · rw [Option.map_map]
    cases store.entry? ref with
    | none => rfl
    | some entry => exact congrArg some (entry.frame_step r.2)
  · rfl

/-! ## What depends on the frame alone -/

variable {a b : Store}

/-- Entries of two collections with one frame have one frame. -/
theorem entry?_of_frame (h : a.frame = b.frame) {ref : StatementRef} {entry : Entry}
    (hEntry : a.entry? ref = some entry) :
    ∃ other, b.entry? ref = some other ∧ other.frame = entry.frame := by
  have hFrame := a.getElem?_frame ref
  rw [h, b.getElem?_frame, hEntry] at hFrame
  exact Option.map_eq_some_iff.mp hFrame

theorem className_of_frame (h : a.frame = b.frame) (ref : StatementRef) :
    a.className ref = b.className ref := by
  have hName : ∀ store : Store, store.className ref = (store.frame[ref]?.map Prod.fst).getD "" := by
    intro store
    rw [getElem?_frame, Option.map_map]
    rfl
  rw [hName a, hName b, h]

/-- What is shown of statements is told by the frame alone. -/
theorem shownWithin_of_frame (h : a.frame = b.frame) (depth : Nat) :
    a.shownWithin depth = b.shownWithin depth := by
  have hNames : a.className = b.className := funext fun ref => className_of_frame h ref
  induction depth with
  | zero => rfl
  | succ depth ih =>
    funext ref
    rw [shownWithin, shownWithin, hNames, ih]
    cases hEntry : a.entry? ref with
    | none =>
      have hOther := b.getElem?_frame ref
      rw [← h, a.getElem?_frame, hEntry] at hOther
      rw [Option.map_eq_none_iff.mp hOther.symm]
    | some entry =>
      obtain ⟨other, hOther, hFrame⟩ := entry?_of_frame h hEntry
      obtain ⟨hClass, hRest⟩ := Prod.mk.inj hFrame
      obtain ⟨-, hTable⟩ := Prod.mk.inj hRest
      rw [hOther]
      simp only [hClass, hTable]

/-- So is the nameplate, which is all that the messages of faults need. -/
theorem nameplate_of_frame (h : a.frame = b.frame) : a.nameplate = b.nameplate := by
  have hSize : a.size = b.size := by
    have hLength := congrArg List.length h
    rw [frame, frame, List.length_map, List.length_map] at hLength
    exact hLength
  rw [nameplate, nameplate, hSize, shownWithin_of_frame h,
    funext fun ref => className_of_frame h ref]

/-- What it is to be a setter call on a slot. -/
theorem touches_iff {store : Store} {place : StatementRef × Slot} {r : Request} :
    store.touches place r = true ↔
      r.1 = place.1 ∧ ∃ entry, store.entry? r.1 = some entry ∧
        r.2.slot? entry.content.kind = some place.2 := by
  rw [touches, Bool.and_eq_true, beq_iff_eq, Option.any_eq_true]
  refine and_congr_right fun _ => exists_congr fun entry => and_congr_right fun _ => ?_
  rw [beq_iff_eq]

/-- A setter call is answered alike in collections with one frame. -/
theorem outcome_of_frame (h : a.frame = b.frame) {place : StatementRef × Slot} {r : Request}
    (hTouches : a.touches place r = true) : a.outcome r = b.outcome r := by
  obtain ⟨-, entry, hEntry, hSlot⟩ := touches_iff.mp hTouches
  -- the entries may have different contents, but of one kind
  obtain ⟨other, hOther, hFrame⟩ := entry?_of_frame h hEntry
  obtain ⟨hClass, hRest⟩ := Prod.mk.inj hFrame
  obtain ⟨hKind, -⟩ := Prod.mk.inj hRest
  have hResult : (a.request r).reply.result = (b.request r).reply.result := by
    rw [request, request, hEntry, hOther]
    show (a.call r.1 entry r.2).reply.result = (b.call r.1 other r.2).reply.result
    rw [Store.call, Store.call, hKind, hClass]
    split
    · exact Statement.result_apply_of_slot hKind.symm hSlot a.text b.text
    · rfl
  rw [outcome, outcome, hResult, nameplate_of_frame h]

/-! ## Runs -/

/-- Setter calls are answered as in the collection that the run starts with. -/
theorem outcomesAt_eq (store : Store) (place : StatementRef × Slot) (run : List Request) :
    store.outcomesAt place run = (run.filter (store.touches place)).map store.outcome := by
  -- the run goes on in other collections, but all of them have the frame of the first
  have hFrom : ∀ s : Store, s.frame = store.frame →
      Run.noted request (fun s r => if store.touches place r then [s.outcome r] else []) s run =
        (run.filter (store.touches place)).map store.outcome := by
    induction run with
    | nil => exact fun _ _ => rfl
    | cons r rest ih =>
      intro s hFrame
      rw [Run.noted_cons, ih _ ((s.frame_request r).trans hFrame), List.filter_cons]
      by_cases hTouches : store.touches place r = true
      · rw [if_pos hTouches, if_pos hTouches, List.map_cons, List.singleton_append,
          outcome_of_frame hFrame.symm hTouches]
      · rw [if_neg hTouches, if_neg hTouches, List.nil_append]
  exact hFrom store rfl

/-- The calls of a run on a statement. -/
def callsOn (ref : StatementRef) (run : List Request) : List Call :=
  (run.filter fun r => r.1 = ref).map Prod.snd

/-- The calls on a statement are those of the first request, if it is on it, and those behind. -/
theorem callsOn_cons (ref : StatementRef) (r : Request) (rest : List Request) :
    callsOn ref (r :: rest) =
      if r.1 = ref then r.2 :: callsOn ref rest else callsOn ref rest := by
  rw [callsOn, List.filter_cons]
  by_cases hRef : r.1 = ref
  · rw [if_pos hRef, if_pos (decide_eq_true hRef)]
    rfl
  · rw [if_neg hRef, if_neg (mt of_decide_eq_true hRef)]
    rfl

/-- What a run leaves of a statement is what the calls on it leave. -/
theorem entry?_after (store : Store) (run : List Request) (ref : StatementRef) :
    Store.entry? (Run.after request store run) ref =
      (store.entry? ref).map fun entry =>
        { entry with
          content := Run.after (Statement.apply .static) entry.content (callsOn ref run) } := by
  induction run generalizing store with
  | nil =>
    cases hEntry : store.entry? ref with
    | none => exact hEntry
    | some entry => exact hEntry
  | cons r rest ih =>
    -- a request on another statement does not count here
    rw [Run.after_cons, ih, entry?_request, callsOn_cons]
    split
    · rw [Option.map_map]
      rfl
    · rfl

/-- The calls on a slot of a statement, among the calls on the statement. -/
theorem filter_callsOn {store : Store} {ref : StatementRef} {entry : Entry}
    (hEntry : store.entry? ref = some entry) (slot : Slot) (run : List Request) :
    ((callsOn ref run).filter fun call => call.slot? entry.content.kind = some slot) =
      (run.filter (store.touches (ref, slot))).map Prod.snd := by
  rw [callsOn, List.filter_map, List.filter_filter]
  refine congrArg (List.map Prod.snd) (List.filter_congr fun r _ => ?_)
  rw [Bool.eq_iff_iff, touches_iff, Bool.and_eq_true, decide_eq_true_iff]
  constructor
  · rintro ⟨hSlot, hRef⟩
    exact ⟨hRef, entry, hRef ▸ hEntry, of_decide_eq_true hSlot⟩
  · rintro ⟨hRef, found, hFound, hSlot⟩
    rw [hRef, hEntry] at hFound
    cases hFound
    exact ⟨decide_eq_true hSlot, hRef⟩

/-- No call of a run on a statement fills two slots if no request does. -/
theorem spansSlots_of_mem_callsOn {store : Store} {run : List Request}
    (hRun : ∀ r ∈ run, store.spansSlots r = false) {ref : StatementRef} {entry : Entry}
    (hEntry : store.entry? ref = some entry) :
    ∀ call ∈ callsOn ref run, call.spansSlots entry.content.kind = false := by
  intro call hCall
  obtain ⟨r, hMem, rfl⟩ := List.mem_map.mp hCall
  obtain ⟨hRequest, hRef⟩ := List.mem_filter.mp hMem
  have hOne := hRun r hRequest
  rw [spansSlots, of_decide_eq_true hRef, hEntry] at hOne
  exact hOne

/-- The calls of each slot determine what a run leaves. -/
theorem after_eq_of_slots (store : Store) {run run' : List Request}
    (hRun : ∀ r ∈ run, store.spansSlots r = false)
    (hRun' : ∀ r ∈ run', store.spansSlots r = false)
    (hSame : ∀ place, run.filter (store.touches place) = run'.filter (store.touches place)) :
    Run.after request store run = Run.after request store run' := by
  refine ext_entry? fun ref => ?_
  rw [entry?_after, entry?_after]
  cases hEntry : store.entry? ref with
  | none => rfl
  | some entry =>
    -- slot by slot, both contents come from the same calls
    have hContent : Run.after (Statement.apply .static) entry.content (callsOn ref run) =
        Run.after (Statement.apply .static) entry.content (callsOn ref run') := by
      refine Statement.eq_of_only fun slot => ?_
      rw [Statement.only_after slot _ _ (spansSlots_of_mem_callsOn hRun hEntry),
        Statement.only_after slot _ _ (spansSlots_of_mem_callsOn hRun' hEntry),
        filter_callsOn hEntry, filter_callsOn hEntry, hSame]
    rw [Option.map_some, Option.map_some, hContent]

/-- **The order of calls across slots and statements does not matter.** Two runs that make the same
calls in the same order on every slot of every statement, with texts built anywhere in between, are
answered alike: every setter call returns or raises the same, and at the end every statement has the
same text or is refused one for the same reason. -/
theorem interleavings_agree (store : Store) {run run' : List Request}
    (hRun : ∀ r ∈ run, store.spansSlots r = false)
    (hRun' : ∀ r ∈ run', store.spansSlots r = false)
    (hSame : ∀ place, run.filter (store.touches place) = run'.filter (store.touches place)) :
    (∀ place, store.outcomesAt place run = store.outcomesAt place run') ∧
      ∀ ref, (Run.after request store run).outcome (ref, .build) =
        (Run.after request store run').outcome (ref, .build) := by
  constructor
  · intro place
    rw [outcomesAt_eq, outcomesAt_eq, hSame]
  · intro ref
    rw [after_eq_of_slots store hRun hRun' hSame]

/-- An UPDATE and a SELECT statement. -/
def stockStore : Store where
  entries :=
    [⟨"change", "UpdateBuilder", false, .update { table := .text "stock" }⟩,
      ⟨"list", "SelectBuilder", false, .select { table := .text "stock" }⟩]

/-- Two statements in turn, with a list of assignments that is refused at its second item, a bare
text for a list, a count that is refused, and a text that is built on the way. -/
def stockRun : List Request :=
  [(0, .condition (.text "id = 1")), (1, .limit (.int 5)),
    (0, .columns (.list [.tuple [.text "n", .text "1"], .int 3])), (0, .build),
    (1, .columns (.text "n")), (1, .limit (.int (-1))), (0, .assign (.text "n") (.text "2")),
    (1, .columns (.list [.text "n"]))]

/-- The same calls on every slot, one statement after the other and each from its last clause on. -/
def stockRunBySlot : List Request :=
  [(1, .build), (1, .limit (.int 5)), (1, .limit (.int (-1))), (1, .columns (.text "n")),
    (1, .columns (.list [.text "n"])),
    (0, .columns (.list [.tuple [.text "n", .text "1"], .int 3])),
    (0, .assign (.text "n") (.text "2")), (0, .condition (.text "id = 1"))]

theorem stockRuns_agree :
    (∀ place, stockStore.outcomesAt place stockRun = stockStore.outcomesAt place stockRunBySlot) ∧
      (Run.after request stockStore stockRunBySlot).outcome (0, .build) =
        .ok (.built "UPDATE stock SET n = 2 WHERE id = 1;") := by
  have hSame : ∀ place, stockRun.filter (stockStore.touches place) =
      stockRunBySlot.filter (stockStore.touches place) := by
    rintro ⟨ref, slot⟩
    -- no call is on any other statement
    match ref with
    | 0 => cases slot <;> rfl
    | 1 => cases slot <;> rfl
    | _ + 2 => rfl
  obtain ⟨hOutcomes, hBuilds⟩ :=
    stockStore.interleavings_agree (by decide : ∀ r ∈ stockRun, stockStore.spansSlots r = false)
      (by decide : ∀ r ∈ stockRunBySlot, stockStore.spansSlots r = false) hSame
  refine ⟨hOutcomes, (hBuilds 0).symm.trans ?_⟩
  rfl

end Store

end SqlCompose
