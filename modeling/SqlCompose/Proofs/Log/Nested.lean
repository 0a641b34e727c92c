import SqlCompose.Proofs.Log.Verdicts
import SqlCompose.Proofs.Report

/-!
# SqlCompose — what is reported while a record is written

A record may have values in it that report something when they are shown: a
statement reports that its text was built. So writing one record may bring about
others. All of them are reports of statements, however deep they come from, and
the loggers of statements are below the root of the namespace.

`Logged.Within P x` says that all reports of an operation satisfy a condition.
It is kept by sequences, so it goes through everything that is made of texts of
values: the clauses of statements, templates, JSON, and the lines of records.

* `Store.within_text`: what texts of values report is reported by statements;
* `Hub.within_write`: what a sink reports is what texts of values report;
* `Session.below_of_write`: while a record is written, only loggers below the
  root of the namespace report anything.
-/

namespace SqlCompose

namespace Logged

variable {α β : Type} {P : Event → Prop} {x : Logged α} {f : α → Logged β}

/-- All reports of an operation satisfy a condition. -/
def Within (P : Event → Prop) (x : Logged α) : Prop := ∀ event ∈ x.events, P event

/-- A result or failure by itself reports nothing. -/
theorem within_ofExcept (result : Except Fault α) : (ofExcept result).Within P :=
  fun _ h => absurd h List.not_mem_nil

theorem within_pure (a : α) : (pure a : Logged α).Within P := within_ofExcept (.ok a)

theorem within_fail (fault : Fault) : (fail fault : Logged α).Within P :=
  within_ofExcept (.error fault)

/-- An event is all that its own report has. -/
theorem within_report {event : Event} (h : P event) : (report event).Within P :=
  fun _ hMem => List.mem_singleton.mp hMem ▸ h

/-- A sequence reports nothing else than its parts. -/
theorem Within.bind (h : x.Within P) (hMore : ∀ a, (f a).Within P) : (x >>= f).Within P := by
  intro event hMem
  rw [events_bind] at hMem
  rcases List.mem_append.mp hMem with hFirst | hSecond
  · exact h event hFirst
  · cases hResult : x.result with
    | ok a =>
      rw [hResult] at hSecond
      exact hMore a event hSecond
    | error fault =>
      rw [hResult] at hSecond
      exact absurd hSecond List.not_mem_nil

/-- What an operation reports for each element of a row. -/
theorem within_each {row : List α} (h : ∀ a, (f a).Within P) : (each f row).Within P := by
  induction row with
  | nil => exact within_pure _
  | cons a rest ih => exact (h a).bind fun b => ih.bind fun bs => within_pure _

end Logged

open Logged

variable {P : Event → Prop} {text : Rendering}

/-! ## Statements -/

namespace Clause

/-- A clause reports what showing its body does, or nothing if it is left out. -/
theorem within_condition (hText : ∀ v, (text v).Within P) (keyword : String) (body : Value) :
    (condition text keyword body).Within P := by
  unfold condition
  split
  · exact within_pure _
  · exact (hText body).bind fun _ => within_pure _

theorem within_tableAlias (hText : ∀ v, (text v).Within P) (name : Value) :
    (tableAlias text name).Within P := by
  unfold tableAlias
  split
  · exact (hText name).bind fun _ => within_pure _
  · exact within_pure _

/-- A join reports what showing its three fragments does. -/
theorem within_join (hText : ∀ v, (text v).Within P) (kind table on name : Value) :
    (join text kind table on name).Within P := by
  unfold join
  refine (hText table).bind fun target => ?_
  refine (within_tableAlias hText name).bind fun renamed => ?_
  refine (within_ofExcept _).bind fun keyword => ?_
  exact (hText on).bind fun written => within_pure _

theorem within_orderTerm (hText : ∀ v, (text v).Within P) (column direction : Value) :
    (orderTerm text column direction).Within P := by
  unfold orderTerm
  refine (hText column).bind fun written => ?_
  exact (within_ofExcept _).bind fun keyword => within_pure _

theorem within_assignment (hText : ∀ v, (text v).Within P) (column value : Value) :
    (assignment text column value).Within P := by
  unfold assignment
  refine (hText column).bind fun left => ?_
  exact (hText value).bind fun right => within_pure _

end Clause

/-- Lists that do not match are refused; only the table is shown for that. -/
theorem Insert.within_requireAligned (hText : ∀ v, (text v).Within P) (s : Insert) :
    (s.requireAligned text).Within P := by
  unfold requireAligned
  split
  · exact within_pure _
  · exact (hText s.table).bind fun table => within_fail _

section Kinds

/-! Every kind of statement reports that it was built, and besides what its fragments report. -/

variable (hBuilt : ∀ s : Statement, P s.builtEvent) (hText : ∀ v, (text v).Within P)

include hBuilt hText

theorem Select.within_render (s : Select) : (s.render text).Within P := by
  refine (within_ofExcept _).bind fun columns => ?_
  refine (hText s.table).bind fun table => ?_
  refine (Clause.within_tableAlias hText s.tableAlias).bind fun name => ?_
  refine (within_each fun join => Clause.within_join hText _ _ _ _).bind fun joins => ?_
  refine (Clause.within_condition hText "WHERE" s.condition).bind fun condition => ?_
  refine (within_ofExcept _).bind fun grouping => ?_
  refine (Clause.within_condition hText "HAVING" s.groupCondition).bind fun groupCondition => ?_
  refine (within_each fun term => Clause.within_orderTerm hText _ _).bind fun terms => ?_
  exact (within_report (hBuilt (.select s))).bind fun _ => within_pure _

theorem Insert.within_render (s : Insert) : (s.render text).Within P := by
  refine (s.within_requireAligned hText).bind fun _ => ?_
  split
  · exact (hText s.table).bind fun table => within_fail _
  · refine (within_report (hBuilt (.insert s))).bind fun _ => ?_
    refine (hText s.table).bind fun table => ?_
    refine (within_ofExcept _).bind fun columns => ?_
    exact (within_ofExcept _).bind fun values => within_pure _

theorem Update.within_render (s : Update) : (s.render text).Within P := by
  unfold render
  split
  · exact (hText s.table).bind fun table => within_fail _
  · refine (within_each fun entry => Clause.within_assignment hText _ _).bind
      fun assignments => ?_
    refine (hText s.table).bind fun table => ?_
    refine (Clause.within_condition hText "WHERE" s.condition).bind fun condition => ?_
    exact (within_report (hBuilt (.update s))).bind fun _ => within_pure _

theorem Delete.within_render (s : Delete) : (s.render text).Within P := by
  refine (within_report (hBuilt (.delete s))).bind fun _ => ?_
  refine (hText s.table).bind fun table => ?_
  exact (Clause.within_condition hText "WHERE" s.condition).bind fun condition => within_pure _

/-- **What building a statement reports** is what texts of values report, and that it was built. -/
theorem Statement.within_render (s : Statement) : (s.render text).Within P := by
  cases s with
  | select s => exact s.within_render hBuilt hText
  | insert s => exact s.within_render hBuilt hText
  | update s => exact s.within_render hBuilt hText
  | delete s => exact s.within_render hBuilt hText

end Kinds

/-- **What texts of values report is reported by statements**, by induction on the depth to which
references are followed. -/
theorem Store.within_text (hBuilt : ∀ s : Statement, P s.builtEvent) (store : Store) (v : Value) :
    (store.text v).Within P := by
  have hDepth : ∀ depth v, (store.textWithin depth v).Within P := by
    intro depth
    induction depth with
    | zero =>
      intro v
      cases v <;> exact within_ofExcept _
    | succ depth ih =>
      intro v
      cases v with
      | statement ref =>
        rw [textWithin]
        split
        · exact Statement.within_render hBuilt ih _
        · exact within_fail _
      | _ => exact within_ofExcept _
  exact hDepth store.size v

/-! ## Lines -/

/-- The text of a value by itself reports what is reported where it is put into a text. -/
theorem Rendering.within_plain (hText : ∀ v, (text v).Within P) (v : Value) :
    (text.plain v).Within P := by
  cases v with
  | object o => exact within_pure _
  | _ => exact hText _

open Rendering

namespace Template

/-- A conversion reports something only where it takes the text of a value. -/
theorem within_convert (hText : ∀ v, (text v).Within P) (plate : Nameplate) (c : Conversion)
    (v : Value) : (convert text plate c v).Within P := by
  unfold convert
  split
  · exact (within_plain hText v).bind fun written => within_pure _
  all_goals exact within_ofExcept _

theorem within_fillDirective (hText : ∀ v, (text v).Within P) (plate : Nameplate) (d : Directive)
    (args : Arguments) : (fillDirective text plate d args).Within P := by
  refine (within_ofExcept _).bind fun selected => ?_
  refine (within_ofExcept _).bind fun ⟨width, flags, pending⟩ => ?_
  refine (within_ofExcept _).bind fun ⟨precision, pending⟩ => ?_
  dsimp only
  split
  · exact within_fail _
  · refine (within_ofExcept _).bind fun ⟨v, pending⟩ => ?_
    refine (within_convert hText plate _ v).bind fun written => ?_
    exact (within_ofExcept _).bind fun filled => within_pure _

/-- Filling in arguments reports what their texts do, up to the first that cannot be filled in. -/
theorem within_fillPieces (hText : ∀ v, (text v).Within P) (plate : Nameplate)
    (pieces : List Piece) (args : Arguments) : (fillPieces text plate pieces args).Within P := by
  induction pieces generalizing args with
  | nil =>
    unfold fillPieces
    split <;> exact within_ofExcept _
  | cons piece rest ih =>
    cases piece with
    | literal c => exact (ih args).bind fun tail => within_pure _
    | directive d =>
      refine (within_fillDirective hText plate d args).bind fun written => ?_
      exact (ih _).bind fun tail => within_pure _

end Template

namespace Json

mutual

/-- **What writing a value as JSON reports** is what the texts of the values in it report, at any
depth. -/
theorem within_write (hText : ∀ v, (text v).Within P) : ∀ v : Value, (write text v).Within P
  | .null | .bool _ | .int _ | .float _ | .text _ | .join _ | .order _ | .object _ =>
    within_ofExcept _
  | .list items | .tuple items => (within_writeAll hText items).bind fun _ => within_pure _
  | .dict entries => (within_writeEntries hText entries).bind fun _ => within_pure _
  | .bytes _ | .set _ | .iterator _ | .statement _ => (hText _).bind fun _ => within_pure _

theorem within_writeAll (hText : ∀ v, (text v).Within P) :
    ∀ values : List Value, (writeAll text values).Within P
  | [] => within_pure _
  | v :: rest =>
    (within_write hText v).bind fun _ =>
      (within_writeAll hText rest).bind fun _ => within_pure _

theorem within_writeEntries (hText : ∀ v, (text v).Within P) :
    ∀ entries : List (Value × Value), (writeEntries text entries).Within P
  | [] => within_pure _
  | (name, v) :: rest =>
    (within_ofExcept (key name)).bind fun _ =>
      (within_write hText v).bind fun _ =>
        (within_writeEntries hText rest).bind fun _ => within_pure _

end

end Json

namespace Record

/-- The message of a record reports what the texts of the message and of the arguments do. -/
theorem within_messageText (hText : ∀ v, (text v).Within P) (plate : Nameplate) (r : Record) :
    (r.messageText text plate).Within P := by
  refine (within_plain hText r.message).bind fun message => ?_
  split
  · exact within_pure _
  · exact Template.within_fillPieces hText plate _ _

/-- So does a line, with its fields. -/
theorem within_lineIn (hText : ∀ v, (text v).Within P) (plate : Nameplate) (r : Record)
    (style : LineStyle) : (r.lineIn style text plate).Within P := by
  cases style with
  | structured =>
    refine (within_ofExcept _).bind fun time => ?_
    refine (r.within_messageText hText plate).bind fun message => ?_
    exact (within_ofExcept _).bind fun entries => Json.within_write hText _
  | simple =>
    refine (r.within_messageText hText plate).bind fun message => ?_
    exact (within_ofExcept _).bind fun time => within_pure _

end Record

/-- **What a sink reports** is what texts of values report. -/
theorem Hub.within_write (hText : ∀ v, (text v).Within P) (plate : Nameplate) (r : Record)
    (sink : Sink) : (write text plate r sink).Within P := by
  cases sink with
  | console style => exact (r.within_lineIn hText plate style).bind fun line => within_pure _
  | file name => exact (r.within_lineIn hText plate .structured).bind fun line => within_pure _
  | extra id =>
    have hKeep : (keep text plate r).Within P :=
      (r.within_messageText hText plate).bind fun message => within_pure _
    exact hKeep.bind fun record => within_pure _

/-! ## Loggers -/

/-- The event is reported to a logger below the root of the namespace, or to the root itself,
whatever other loggers there are. -/
def Event.IsBelow (event : Event) : Prop := ∀ hub : Hub, namespaceName ∈ hub.lineage event.logger

/-- So it is if the name of the logger is in the namespace and no dot follows the one behind the
namespace. -/
theorem Event.isBelow_of_isInside {event : Event} (hInside : LoggerName.IsInside event.logger)
    (h : LoggerName.hasDotInFront event.logger = false) : event.IsBelow :=
  fun hub => LoggerName.mem_above_of_isInside hub.hasLogger_namespaceName hInside h

/-- A statement reports that it was built to a logger that the library has made for itself. -/
theorem Statement.isBelow_builtEvent (s : Statement) : s.builtEvent.IsBelow := by
  have hOwn : s.builtEvent.logger ∈ LoggerName.own := by
    cases s
    all_goals
      show loggerBelow _ ∈ LoggerName.own
      decide
  obtain ⟨hInside, hDot⟩ := LoggerName.own_isInside _ hOwn
  exact Event.isBelow_of_isInside hInside hDot

/-- **While a record is written, only loggers below the root of the namespace report anything.** -/
theorem Session.below_of_write (session : Session) (r : Record) (sink : Sink) :
    (Hub.write session.store.text session.nameplate r sink).Within Event.IsBelow :=
  Hub.within_write (session.store.within_text Statement.isBelow_builtEvent) _ r sink

end SqlCompose
