import SqlCompose.Proofs.Interleaving
import SqlCompose.Proofs.Log.Delivery
import SqlCompose.Proofs.Update.Refused

/-!
# SqlCompose — the report that a condition is replaced

A statement has at most two conditions, and each is replaced as a whole. The
report of a replacement names the table, which is a text: nothing is looked up
or written out to show it. So the message can always be made, its text is the
table as it was given, and while the record is written nothing else is reported.
What comes of the report is then a matter of the loggers alone.

Main results:

* `Statement.events_conditionCall` — what a call that gives a condition reports.
* `ConditionClause.held?_apply` — which calls change a condition.
* `Template.fill_trailing` — a message that ends in a table.
* `Hub.created_replacing`, `Hub.deliver_replacing` — the records that are made,
  and what is written for them.
-/

namespace SqlCompose

/-! ## Conditions -/

/-- The two clauses that hold a condition. -/
inductive ConditionClause where
  | rows
  | groups
  deriving DecidableEq

/-- The word for a kind in the names of its logger and its module. -/
def StatementKind.word : StatementKind → String
  | .select => "select"
  | .insert => "insert"
  | .update => "update"
  | .delete => "delete"

namespace ConditionClause

def keyword : ConditionClause → String
  | rows => "WHERE"
  | groups => "HAVING"

/-- The call that gives a condition. -/
def call : ConditionClause → Value → Call
  | rows => .condition
  | groups => .groupCondition

/-- The condition that a call gives. -/
def given? : ConditionClause → Call → Option Value
  | rows => Select.conditionGiven?
  | groups => Select.groupConditionGiven?

/-- The condition that a statement holds; none if its kind does not have the clause. -/
def held? : ConditionClause → Statement → Option Value
  | rows, .select s => some s.condition
  | rows, .update s => some s.condition
  | rows, .delete s => some s.condition
  | groups, .select s => some s.groupCondition
  | _, _ => none

end ConditionClause

/-- The report that a statement replaces a condition. -/
def Statement.replacing (s : Statement) (clause : ConditionClause) : Event :=
  .replacing s.kind.word clause.keyword (clause.call .null).name s.table

/-- Replacing something is reported unless there is nothing yet. -/
theorem Answer.events_replace {σ : Type} (held : σ → Value) (notice : σ → Event) (f : σ → σ)
    (s : σ) :
    (Answer.worked s (Work.replace held notice f)).reply.events =
      if (held s).isNull then [] else [notice s] := by
  show ((Work.replace held notice f s).2 >>= fun _ => (pure .chained : Logged Reply)).events = _
  rw [Work.replace_eq, Logged.events_bind]
  exact List.append_nil _

/-- A call that gives a condition is accepted, and reports that it replaces the one that is held,
unless that is null. -/
theorem Statement.events_conditionCall {s : Statement} {clause : ConditionClause} {held : Value}
    (h : clause.held? s = some held) (text : Rendering) (body : Value) :
    (s.apply text (clause.call body)).reply.result = .ok .chained ∧
      (s.apply text (clause.call body)).reply.events =
        if held.isNull then [] else [s.replacing clause] := by
  cases clause with
  | rows =>
    cases s with
    | insert s => cases h
    | _ =>
      cases h
      exact ⟨(Answer.worked_replace ..).2, Answer.events_replace ..⟩
  | groups =>
    cases s with
    | select s =>
      cases h
      exact ⟨(Answer.worked_replace ..).2, Answer.events_replace ..⟩
    | _ => cases h

/-- A kind that has the clause knows the call. -/
theorem Statement.knows_conditionCall {s : Statement} {clause : ConditionClause} {held : Value}
    (h : clause.held? s = some held) (body : Value) :
    s.kind.operations.contains (clause.call body).name = true := by
  cases clause with
  | rows =>
    cases s with
    | insert s => cases h
    | select s => rfl
    | update s => rfl
    | delete s => rfl
  | groups =>
    cases s with
    | select s => rfl
    | _ => cases h

section Slots

variable (text : Rendering) (call : Call)

/-! A condition is in a slot of its own, so calls for other slots leave it. -/

/-- After a call a statement has the condition that the call gives, or the one that it had. -/
theorem Select.condition_apply (s : Select) :
    (s.apply text call).state.condition = (conditionGiven? call).getD s.condition := by
  have hSlot := congrArg Select.condition (only_apply .condition text s call)
  cases call with
  | condition body =>
    rw [state_apply]
    rfl
  | _ => exact hSlot

/-- The same for the condition on groups. -/
theorem Select.groupCondition_apply (s : Select) :
    (s.apply text call).state.groupCondition =
      (groupConditionGiven? call).getD s.groupCondition := by
  have hSlot := congrArg Select.groupCondition (only_apply .groupCondition text s call)
  cases call with
  | groupCondition body =>
    rw [state_apply]
    rfl
  | _ => exact hSlot

theorem Update.condition_apply (s : Update) :
    (s.apply text call).state.condition = (Select.conditionGiven? call).getD s.condition := by
  have hSlot := congrArg Update.condition (only_apply .condition text s call)
  cases call with
  | condition body =>
    rw [(s.apply_condition text body).1]
    rfl
  | _ => exact hSlot

theorem Delete.condition_apply (s : Delete) :
    (s.apply text call).state.condition = (Select.conditionGiven? call).getD s.condition := by
  cases call with
  | condition body =>
    rw [(s.apply_condition text body).1]
    rfl
  | _ => rfl

/-- A condition is changed by the calls that give one, and by no others. -/
theorem ConditionClause.held?_apply (clause : ConditionClause) (s : Statement) :
    clause.held? (s.apply text call).state =
      (clause.held? s).map fun held => (clause.given? call).getD held := by
  cases clause with
  | rows =>
    cases s with
    | select s => exact congrArg some (s.condition_apply text call)
    | insert s => rfl
    | update s => exact congrArg some (s.condition_apply text call)
    | delete s => exact congrArg some (s.condition_apply text call)
  | groups =>
    cases s with
    | select s => exact congrArg some (s.groupCondition_apply text call)
    | _ => rfl

end Slots

/-! ## Other calls -/

section Others

variable {P : Event → Prop} {text : Rendering} {call : Call} {σ : Type}

/-- A call reports what its work does. -/
theorem Answer.within_worked {s : σ} {work : Work σ Unit} (h : (work s).2.Within P) :
    (worked s work).reply.Within P :=
  h.bind fun _ => Logged.within_pure _

theorem Answer.within_built {s : σ} {outcome : Logged String} (h : outcome.Within P) :
    (built s outcome).reply.Within P :=
  h.bind fun _ => Logged.within_pure _

/-- A check and a change that follows it report nothing. -/
theorem Answer.within_checked {α : Type} (s : σ) (check : Except Fault α) (f : α → σ → σ) :
    (worked s (Work.require check >>= fun a => Work.change (f a))).reply.Within P := by
  refine within_worked ?_
  rw [Work.require_bind]
  cases check with
  | ok a => exact Logged.within_pure _
  | error fault => exact Logged.within_fail _

variable (hBuilt : ∀ s : Statement, P s.builtEvent) (hText : ∀ v, (text v).Within P)

include hBuilt hText

/-- A call on a SELECT statement that gives no condition reports only what building does. -/
theorem Select.within_apply {s : Select} (hRows : conditionGiven? call = none)
    (hGroups : groupConditionGiven? call = none) : (s.apply text call).reply.Within P := by
  cases call with
  | tableAlias name => exact Logged.within_pure _
  | joinOf kind table on name => exact Logged.within_pure _
  | condition body => cases hRows
  | groupCondition body => cases hGroups
  | build => exact Answer.within_built (s.within_render hBuilt hText)
  | values items => exact Logged.within_fail _
  | assign column value => exact Logged.within_fail _
  | _ => exact Answer.within_checked _ _ _

theorem Insert.within_apply {s : Insert} : (s.apply text call).reply.Within P := by
  cases call with
  | columns items => exact Answer.within_checked _ _ _
  | values items => exact Answer.within_checked _ _ _
  | assign column value =>
    refine Answer.within_worked ?_
    show (Work.andThen (Work.ofLogged (s.requireAligned text)) _ s).2.Within P
    unfold Work.andThen
    -- what is reported is what the check reports
    have hCheck := s.within_requireAligned hText
    split
    · exact fun event hEvent =>
        hCheck event (List.append_nil (s.requireAligned text).events ▸ hEvent)
    · exact hCheck
  | build => exact Answer.within_built (s.within_render hBuilt hText)
  | _ => exact Logged.within_fail _

/-- The same for an UPDATE statement. -/
theorem Update.within_apply {s : Update} (hRows : Select.conditionGiven? call = none) :
    (s.apply text call).reply.Within P := by
  cases call with
  | assign column value => exact Answer.within_checked _ _ _
  | columns items =>
    refine Answer.within_worked ?_
    rw [assignAll_eq]
    exact Logged.within_ofExcept _
  | condition body => cases hRows
  | build => exact Answer.within_built (s.within_render hBuilt hText)
  | _ => exact Logged.within_fail _

/-- The same for a DELETE statement. -/
theorem Delete.within_apply {s : Delete} (hRows : Select.conditionGiven? call = none) :
    (s.apply text call).reply.Within P := by
  cases call with
  | condition body => cases hRows
  | build => exact Answer.within_built (s.within_render hBuilt hText)
  | _ => exact Logged.within_fail _

/-- A call that gives no condition to a clause of the statement reports what building reports. -/
theorem Statement.within_apply {s : Statement}
    (hCall : ∀ clause : ConditionClause, (clause.held? s).isSome → clause.given? call = none) :
    (s.apply text call).reply.Within P := by
  cases s with
  | select s => exact s.within_apply hBuilt hText (hCall .rows rfl) (hCall .groups rfl)
  | insert s => exact s.within_apply hBuilt hText
  | update s => exact s.within_apply hBuilt hText (hCall .rows rfl)
  | delete s => exact s.within_apply hBuilt hText (hCall .rows rfl)

end Others

/-! ## The message -/

namespace Template

variable {text : Rendering} {plate : Nameplate}

/-- Characters that are no percent signs stand for themselves. -/
theorem piecesFrom_literals (total steps : Nat) {front : List Char} (h : '%' ∉ front)
    (rest : List Char) :
    piecesFrom total (front.length + steps) (front ++ rest) =
      front.map .literal ++ piecesFrom total steps rest := by
  induction front with
  | nil => rw [List.length_nil, Nat.zero_add, List.nil_append, List.map_nil, List.nil_append]
  | cons c front ih =>
    obtain ⟨hFirst, hRest⟩ := not_or.mp (mt List.mem_cons.mpr h)
    have hSteps : (c :: front).length + steps = front.length + steps + 1 := by
      rw [List.length_cons]
      omega
    rw [hSteps, List.cons_append, piecesFrom, ih hRest]
    · rfl
    · rintro _ rfl -
      exact hFirst rfl
    · rintro rfl
      exact hFirst rfl

/-- Characters in front of the directives are written as they are. -/
theorem fillPieces_literals (front : List Char) (rest : List Piece) (args : Arguments)
    {tail : String} (h : fillPieces text plate rest args = pure tail) :
    fillPieces text plate (front.map .literal ++ rest) args =
      pure (String.ofList front ++ tail) := by
  induction front with
  | nil =>
    rw [List.map_nil, List.nil_append, h]
    simp
  | cons c front ih =>
    rw [List.map_cons, List.cons_append, fillPieces, ih, pure_bind]
    simp [String.ofList_cons, String.append_assoc]

/-- The directive for the plain form of a value. -/
def plainDirective (index : Nat) : Directive where
  key := .absent
  flags := {}
  width := .absent
  precision := .absent
  conversion := some 's'
  index := index

/-- A directive for the plain form takes one value, and writes it as it is. -/
theorem fillPieces_plain {v : Value} {s : String} (hText : text.plain v = pure s) (index : Nat) :
    fillPieces text plate [.directive (plainDirective index)] ⟨none, [v]⟩ = pure s := by
  have hField : field ⟨'s', {}, none, none, index⟩ { body := s } = .ok s := by
    simp [field, padding, largestField]
  have hDirective : fillDirective text plate (plainDirective index) ⟨none, [v]⟩ =
      pure (s, ⟨none, []⟩) := by
    simp only [fillDirective, plainDirective, Arguments.select, takeWidth, takePrecision,
      Arguments.next, Logged.ofExcept_ok, pure_bind, convert, hText, cut, hField]
  rw [fillPieces, hDirective, pure_bind]
  simp [fillPieces]

/-- **A message that ends in a table is its own text and that of the table**, whatever characters
this one has. -/
theorem fill_trailing {front : String} (hFront : '%' ∉ front.toList) {v : Value}
    (hv : v.isText = true) {s : String} (hText : text v = pure s) :
    fill text plate (front ++ "%s") [v] = pure (front ++ s) := by
  have hArguments : Arguments.ofList [v] = ⟨none, [v]⟩ := by
    cases v with
    | dict entries => cases hv
    | _ => rfl
  have hPlain : text.plain v = pure s := (text.plain_of_isText hv).trans hText
  have hLength : (front ++ "%s").length = front.toList.length + 2 := by
    rw [String.length_append, String.length_toList]
    rfl
  have hPieces : pieces (front ++ "%s") = front.toList.map .literal ++
      [.directive (plainDirective (front.toList.length + 1))] := by
    rw [pieces, String.toList_append, hLength, piecesFrom_literals _ _ hFront]
    rfl
  rw [fill, hPieces, hArguments, fillPieces_literals _ _ _ (fillPieces_plain hPlain _),
    String.ofList_toList]

end Template

/-- The record of a replaced condition has the table in its message, as it was given. -/
theorem Record.messageText_replacing (store : Store) (plate : Nameplate) {s : Statement}
    (hTable : s.table.isText = true) (clause : ConditionClause) (millis : Int) :
    (ofEvent (s.replacing clause) millis).messageText store.text plate =
      pure ("Replacing " ++ clause.keyword ++ " condition on " ++ s.table.plain .blank) := by
  have hFront : '%' ∉ ("Replacing " ++ clause.keyword ++ " condition on ").toList := by
    cases clause <;> decide
  have hTemplate : "Replacing " ++ clause.keyword ++ " condition on %s" =
      "Replacing " ++ clause.keyword ++ " condition on " ++ "%s" := by
    cases clause <;> rfl
  show (store.text (.text ("Replacing " ++ clause.keyword ++ " condition on %s")) >>= fun message =>
    Template.fill store.text plate message [s.table]) = _
  rw [store.text_text, pure_bind, hTemplate]
  exact Template.fill_trailing hFront hTable (store.text_of_isText hTable)

/-! ## The record -/

/-- While the record of a replaced condition is written, nothing is reported. -/
theorem Hub.events_write_replacing (store : Store) (plate : Nameplate) {s : Statement}
    (hTable : s.table.isText = true) (clause : ConditionClause) (millis : Int) (sink : Sink) :
    (write store.text plate (.ofEvent (s.replacing clause) millis) sink).events = [] := by
  have hMessage := Record.messageText_replacing store plate hTable clause millis
  -- the entries of the record are texts and numbers
  have hLine : ∀ style,
      (Record.lineIn style store.text plate (.ofEvent (s.replacing clause) millis)).events =
        [] := by
    intro style
    cases style with
    | structured =>
      rw [Record.lineIn, Record.structuredLine, hMessage]
      cases Record.timeText "" (.ofEvent (s.replacing clause) millis) <;> rfl
    | simple =>
      rw [Record.lineIn, Record.simpleLine, hMessage]
      cases Record.timeText "" (.ofEvent (s.replacing clause) millis) <;> rfl
  cases sink with
  | console style =>
    rw [write, Logged.events_bind, hLine style]
    split <;> rfl
  | file name =>
    rw [write, Logged.events_bind, hLine .structured]
    split <;> rfl
  | extra id =>
    rw [write, keep, hMessage]
    rfl

variable {hub : Hub} {store : Store} {plate : Nameplate} {s : Statement} {clause : ConditionClause}

/-- **One record is made of the report**, if the logger takes it, and no other. -/
theorem Hub.created_replacing (hTable : s.table.isText = true) (depth : Nat) :
    hub.created store.text plate (depth + 1) (s.replacing clause) =
      if hub.isEnabled (s.replacing clause).logger (s.replacing clause).level.rank then
        [s.replacing clause]
      else [] := by
  rw [created]
  split
  · simp [events_write_replacing store plate hTable clause]
  · rfl

/-- What is written for the report: one line or record for each sink, unless it cannot write it. -/
theorem Hub.deliver_replacing (hTable : s.table.isText = true) (depth : Nat) :
    hub.deliver store.text plate (depth + 1) (s.replacing clause) =
      if hub.isEnabled (s.replacing clause).logger (s.replacing clause).level.rank then
        (hub.reached (s.replacing clause).logger).filterMap fun sink =>
          hub.written? store.text plate sink (s.replacing clause)
      else [] := by
  rw [deliver]
  split
  · rw [List.filterMap_eq_flatMap_toList]
    refine List.flatMap_congr fun sink _ => ?_
    simp only [events_write_replacing store plate hTable clause, List.flatMap_nil,
      List.nil_append, written?]
    cases (write store.text plate (.ofEvent (s.replacing clause) hub.clock) sink).result <;> rfl
  · rfl

/-! ## Other records -/

/-- The report is that of a replaced condition. -/
def Event.IsReplacement (event : Event) : Prop :=
  ∃ (s : Statement) (clause : ConditionClause), event = s.replacing clause

/-- The report that a text was built is none: it has nothing to fill in. -/
theorem Statement.builtEvent_not_replacement (s : Statement) : ¬ s.builtEvent.IsReplacement := by
  rintro ⟨other, clause, h⟩
  have hArgs := congrArg Event.args h
  cases s <;> cases hArgs

/-- Records are made of the report itself, and of what sinks report while they write. -/
theorem Hub.within_created {text : Rendering} {P : Event → Prop}
    (hNested : ∀ r sink, (write text plate r sink).Within P) (depth : Nat) {event : Event}
    (hEvent : P event) : ∀ made ∈ hub.created text plate depth event, P made := by
  induction depth generalizing event with
  | zero => exact fun _ hMade => absurd hMade List.not_mem_nil
  | succ depth ih =>
    intro made hMade
    rw [created] at hMade
    split at hMade
    · rcases List.mem_cons.mp hMade with rfl | hInner
      · exact hEvent
      · obtain ⟨sink, -, hBySink⟩ := List.mem_flatMap.mp hInner
        obtain ⟨inner, hReported, hFrom⟩ := List.mem_flatMap.mp hBySink
        exact ih (hNested _ sink inner hReported) made hFrom
    · exact absurd hMade List.not_mem_nil

end SqlCompose
