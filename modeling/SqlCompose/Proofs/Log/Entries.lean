import SqlCompose.Session
import SqlCompose.Proofs.Json.Roundtrip
import SqlCompose.Proofs.Literal
import SqlCompose.Proofs.Log.Verdicts

/-!
# SqlCompose — what structured lines say about records

A structured line is a table: seven entries that the record has of itself, then
its fields, then its problem. The fields are entered one by one, so what a line
says depends on how their names meet.

* Fields of new names go behind the record's own entries, in their order. A line
  of data is then read back as exactly what was logged
  (`Record.read_structuredLine`).
* A field that is named like one of the record's own entries takes its place.
  For every report of the loggers themselves, `Hub.Reports.values_of_line` says
  which value stands under each of the seven names. The report of a configuration
  has a field `level`, so its line does not give the level of the record
  (`Hub.level_of_configured_line`); the other six names are free in it.

Names are told apart through `Value.lookup?_insertEntries`: what stands under a
name is the last field of that name, or what stood there before.
-/

namespace SqlCompose

/-! ## Tables under texts -/

namespace Value

/-- Fields as entries of a table. -/
def keyed (fields : List (String × Value)) : List (Value × Value) :=
  fields.map fun field => (.text field.1, field.2)

/-- The value that was given last under a name. -/
def lastOf? (name : String) : List (String × Value) → Option Value
  | [] => none
  | field :: rest => (lastOf? name rest).or (if field.1 = name then some field.2 else none)

/-- A text is the same key as a value if the value counts as that text. -/
theorem equal_text_left (name : String) (v : Value) :
    equal (.text name) v = true ↔ some name = v.text? := by
  cases v <;> simp [equal, equalAtoms, int?, text?]

/-- The first entry under a key is the one that is found. -/
theorem lookup?_cons (key : Value) (entry : Value × Value) (entries : List (Value × Value)) :
    lookup? key (entry :: entries) =
      if equal key entry.1 = true then some entry.2 else lookup? key entries := by
  rw [lookup?, List.find?_cons]
  cases equal key entry.1 <;> rfl

/-- An entry that is written is found under its name and changes nothing under the others. -/
theorem lookup?_insertEntry (name written : String) (v : Value) (entries : List (Value × Value)) :
    lookup? (.text name) (insertEntry (.text written) v entries) =
      if written = name then some v else lookup? (.text name) entries := by
  induction entries with
  | nil =>
    have hSame : equal (.text name) (.text written) = true ↔ written = name := by
      rw [equal_text, beq_iff_eq, eq_comm]
    simp only [insertEntry, lookup?_cons, hSame]
  | cons entry entries ih =>
    rw [insertEntry]
    split
    · -- the key that is there already keeps its spelling, which is equal to no other text
      rename_i hWritten
      have hSame : equal (.text name) entry.1 = true ↔ written = name := by
        rw [equal_text_left] at hWritten ⊢
        rw [← hWritten, Option.some.injEq, eq_comm]
      simp only [lookup?_cons, hSame]
      split <;> rfl
    · rename_i hWritten
      rw [lookup?_cons, ih, lookup?_cons]
      split
      · rename_i hName
        rw [if_neg]
        rintro rfl
        exact hWritten hName
      · rfl

/-- What stands under a name after fields were entered: the last field of that name, or what stood
there before. -/
theorem lookup?_insertEntries (name : String) (fields : List (String × Value))
    (entries : List (Value × Value)) :
    lookup? (.text name) (insertEntries (keyed fields) entries) =
      (lastOf? name fields).or (lookup? (.text name) entries) := by
  induction fields generalizing entries with
  | nil => rfl
  | cons field fields ih =>
    show lookup? _ (insertEntries (keyed fields) (insertEntry (.text field.1) field.2 entries)) = _
    rw [ih, lookup?_insertEntry, lastOf?, Option.or_assoc]
    split <;> rfl

/-- What stands in a table under distinct names is found. -/
theorem lookup?_keyed {fields : List (String × Value)} (h : (fields.map Prod.fst).Nodup)
    {name : String} {v : Value} (hMem : (name, v) ∈ fields) :
    lookup? (.text name) (keyed fields) = some v := by
  induction fields with
  | nil => exact absurd hMem List.not_mem_nil
  | cons field fields ih =>
    rw [List.map_cons, List.nodup_cons] at h
    show lookup? _ ((.text field.1, field.2) :: keyed fields) = _
    simp only [lookup?_cons, equal_text, beq_iff_eq]
    rcases List.mem_cons.mp hMem with rfl | hRest
    · rw [if_pos rfl]
    · rw [if_neg, ih h.2 hRest]
      rintro rfl
      exact h.1 (List.mem_map.mpr ⟨(field.1, v), hRest, rfl⟩)

/-- A field of a new name is entered behind the others. -/
theorem insertEntry_keyed {name : String} {fields : List (String × Value)}
    (h : name ∉ fields.map Prod.fst) (v : Value) :
    insertEntry (.text name) v (keyed fields) = keyed (fields ++ [(name, v)]) := by
  induction fields with
  | nil => rfl
  | cons field fields ih =>
    rw [List.map_cons, List.mem_cons, not_or] at h
    show (if equal (.text name) (.text field.1) then _ else _) = _
    rw [equal_text, beq_false_of_ne h.1, if_neg Bool.false_ne_true]
    exact congrArg _ (ih h.2)

/-- Fields of new names are entered behind the others, in their order. -/
theorem insertEntries_keyed {fields added : List (String × Value)}
    (h : ((fields ++ added).map Prod.fst).Nodup) :
    insertEntries (keyed added) (keyed fields) = keyed (fields ++ added) := by
  induction added generalizing fields with
  | nil => rw [List.append_nil]; rfl
  | cons field added ih =>
    have hNew : field.1 ∉ fields.map Prod.fst := by
      rw [List.map_append, List.map_cons, List.nodup_append] at h
      exact fun hMem => h.2.2 _ hMem _ (List.mem_cons_self ..) rfl
    show insertEntries (keyed added) (insertEntry (.text field.1) field.2 (keyed fields)) = _
    rw [insertEntry_keyed hNew, ih (by simpa using h)]
    simp

/-- The names of a table after a field was entered. -/
theorem exists_insertEntry_keyed (name : String) (v : Value) (fields : List (String × Value)) :
    ∃ entered, insertEntry (.text name) v (keyed fields) = keyed entered ∧
      entered.map Prod.fst =
        if name ∈ fields.map Prod.fst then fields.map Prod.fst
        else fields.map Prod.fst ++ [name] := by
  by_cases hMem : name ∈ fields.map Prod.fst
  · -- the value is replaced where the name stands, so the names stay
    rw [if_pos hMem]
    induction fields with
    | nil => exact absurd hMem (List.not_mem_nil)
    | cons field fields ih =>
      show ∃ entered, (if equal (.text name) (.text field.1) then
        (.text field.1, v) :: keyed fields
        else (.text field.1, field.2) :: insertEntry (.text name) v (keyed fields)) = _ ∧ _
      rw [equal_text]
      by_cases hName : name = field.1
      · rw [hName, beq_self_eq_true, if_pos rfl]
        exact ⟨(field.1, v) :: fields, rfl, rfl⟩
      · obtain ⟨entered, hEntered, hNames⟩ := ih ((List.mem_cons.mp hMem).resolve_left hName)
        rw [beq_false_of_ne hName, if_neg Bool.false_ne_true, hEntered]
        exact ⟨field :: entered, rfl, congrArg (field.1 :: ·) hNames⟩
  · rw [if_neg hMem, insertEntry_keyed hMem]
    exact ⟨_, rfl, by rw [List.map_append]; rfl⟩

/-- Entering fields leaves every name at one place. -/
theorem exists_insertEntries_keyed (added : List (String × Value)) {fields : List (String × Value)}
    (h : (fields.map Prod.fst).Nodup) :
    ∃ entered, insertEntries (keyed added) (keyed fields) = keyed entered ∧
      (entered.map Prod.fst).Nodup := by
  induction added generalizing fields with
  | nil => exact ⟨fields, rfl, h⟩
  | cons field added ih =>
    obtain ⟨entered, hEntered, hNames⟩ := exists_insertEntry_keyed field.1 field.2 fields
    have hDistinct : (entered.map Prod.fst).Nodup := by
      rw [hNames]
      split
      · exact h
      · rename_i hNew
        exact List.nodup_append.mpr ⟨h, by simp, fun other hOther last hLast => by
          rw [List.mem_singleton.mp hLast]
          exact fun hSame => hNew (hSame ▸ hOther)⟩
    obtain ⟨all, hAll, hNodup⟩ := ih hDistinct
    refine ⟨all, ?_, hNodup⟩
    rw [← hAll, ← hEntered]
    rfl

/-- Fields are data if their values are. -/
theorem areDataEntries_keyed (fields : List (String × Value)) :
    areDataEntries (keyed fields) = fields.all fun field => field.2.isData := by
  induction fields with
  | nil => rfl
  | cons field fields ih =>
    rw [List.all_cons, ← ih]
    rfl

end Value

namespace Record

open Value

/-! ## The entries of a line -/

/-- The names of the entries that every structured line starts with. -/
def ownNames : List String :=
  ["timestamp", "level", "logger", "message", "module", "function", "line"]

/-- What a record says of itself under these names. -/
def ownFields (r : Record) (time message : String) : List (String × Value) :=
  ownNames.zip ((r.ownEntries time message).map Prod.snd)

/-- The field for the problem of a record, if it is about one. -/
def problemField (r : Record) : List (String × Value) :=
  r.problem.toList.map fun report => ("exception", .text report)

theorem ownEntries_eq (r : Record) (time message : String) :
    r.ownEntries time message = keyed (r.ownFields time message) := rfl

theorem ownFields_names (r : Record) (time message : String) :
    (r.ownFields time message).map Prod.fst = ownNames := rfl

/-- The entries of a record whose fields are a table under texts. -/
theorem entries_eq {r : Record} {fields : List (String × Value)}
    (h : r.fields.getD (.dict []) = .dict (keyed fields)) (time message : String) :
    r.entries time message = .ok (insertEntries (keyed r.problemField)
      (insertEntries (keyed fields) (r.ownEntries time message))) := by
  cases hGiven : r.fields with
  | none =>
    -- no fields at all count as an empty table
    rw [hGiven] at h
    rw [entries, problemField, hGiven, ← Value.dict.inj h]
    cases r.problem <;> rfl
  | some given =>
    rw [hGiven] at h
    rw [entries, problemField, hGiven, show given = .dict (keyed fields) from h]
    cases r.problem <;> rfl

/-- The parts of a structured line: the time, the message, the entries, and the text of these. -/
theorem structuredLine_eq_ok {text : Rendering} {plate : Nameplate} {pattern : String} {r : Record}
    {line : String} :
    (r.structuredLine text plate pattern).result = .ok line ↔
      ∃ time message entries, r.timeText pattern = .ok time ∧
        (r.messageText text plate).result = .ok message ∧
        r.entries time message = .ok entries ∧
        (Json.write text (.dict entries)).result = .ok line := by
  simp only [structuredLine, Logged.result_bind_eq_ok, Logged.ofExcept]
  constructor
  · rintro ⟨time, hTime, message, hMessage, entries, hEntries, hLine⟩
    exact ⟨time, message, entries, hTime, hMessage, hEntries, hLine⟩
  · rintro ⟨time, message, entries, hTime, hMessage, hEntries, hLine⟩
    exact ⟨time, hTime, message, hMessage, entries, hEntries, hLine⟩

/-! ## Reading a line back -/

section Data

variable {r : Record} {fields : List (String × Value)}

/-- Fields with names of their own get along with the record's own entries and its problem. -/
theorem nodup_names (hDistinct : (fields.map Prod.fst).Nodup)
    (hFree : ∀ name ∈ fields.map Prod.fst, name ∉ ownNames ∧ name ≠ "exception")
    (time message : String) :
    ((r.ownFields time message ++ fields ++ r.problemField).map Prod.fst).Nodup := by
  have hProblem : ∀ name ∈ r.problemField.map Prod.fst, name = "exception" := by
    intro name hName
    obtain ⟨field, hField, rfl⟩ := List.mem_map.mp hName
    obtain ⟨report, -, rfl⟩ := List.mem_map.mp hField
    rfl
  have hSingle : (r.problemField.map Prod.fst).Nodup := by
    cases hGiven : r.problem <;> simp [problemField, hGiven]
  rw [List.map_append, List.map_append, ownFields_names]
  refine List.nodup_append.mpr ⟨List.nodup_append.mpr ⟨by decide, hDistinct, ?_⟩, hSingle, ?_⟩
  · rintro name hOwn other hOther rfl
    exact (hFree name hOther).1 hOwn
  · -- the name of the problem is neither one of the seven nor that of a field
    intro name hName other hOther hSame
    rw [hProblem other hOther] at hSame
    subst hSame
    rcases List.mem_append.mp hName with hOwn | hField
    · exact absurd hOwn (by decide)
    · exact (hFree _ hField).2 rfl

/-- What a record says of itself, and the report of its problem, is data. -/
theorem areDataEntries_all (hData : ∀ field ∈ fields, field.2.isData = true)
    (time message : String) :
    areDataEntries (keyed (r.ownFields time message ++ fields ++ r.problemField)) = true := by
  have hOwn : ((r.ownFields time message).all fun field => field.2.isData) = true := by
    cases hFunction : r.function <;> cases hLine : r.line <;>
      simp [ownFields, ownEntries, ownNames, hFunction, hLine, isData]
  have hProblem : (r.problemField.all fun field => field.2.isData) = true := by
    cases hGiven : r.problem <;> simp [problemField, hGiven, isData]
  rw [areDataEntries_keyed, List.all_append, List.all_append, hOwn, hProblem,
    List.all_eq_true.mpr hData]
  rfl

/-- **A structured line is read back as what was logged**: the record's own entries, then its
fields in their order with exactly their values, then the problem if there is one. -/
theorem read_structuredLine {text : Rendering} {plate : Nameplate} {pattern time message : String}
    (hTime : r.timeText pattern = .ok time)
    (hMessage : (r.messageText text plate).result = .ok message)
    (hFields : r.fields.getD (.dict []) = .dict (keyed fields))
    (hDistinct : (fields.map Prod.fst).Nodup)
    (hFree : ∀ name ∈ fields.map Prod.fst, name ∉ ownNames ∧ name ≠ "exception")
    (hData : ∀ field ∈ fields, field.2.isData = true) :
    ∃ line, (r.structuredLine text plate pattern).result = .ok line ∧
      Json.read? line = some (.dict
        (r.ownEntries time message ++ keyed fields ++ keyed r.problemField)) := by
  have hNames := nodup_names (r := r) hDistinct hFree time message
  have hAll := areDataEntries_all (r := r) hData time message
  -- no name meets another, so the parts are entered behind each other
  have hEntries : r.entries time message =
      .ok (keyed (r.ownFields time message ++ fields ++ r.problemField)) := by
    rw [entries_eq hFields, ownEntries_eq, insertEntries_keyed, insertEntries_keyed hNames]
    rw [List.map_append] at hNames
    exact (List.nodup_append.mp hNames).1
  obtain ⟨line, hLine, hRead⟩ := Json.read?_write text
    (show (Value.dict (keyed (r.ownFields time message ++ fields ++ r.problemField))).isData = true
      from hAll)
  refine ⟨line, structuredLine_eq_ok.mpr ⟨time, message, _, hTime, hMessage, hEntries, hLine⟩, ?_⟩
  rw [hRead, keyed, List.map_append, List.map_append]
  rfl

end Data

/-- The moment that the time is counted from. -/
theorem ofMillis_zero : Moment.ofMillis 0 =
    { seconds := 0, year := 1970, month := 1, day := 1, hour := 0, minute := 0, second := 0,
      weekday := 4, yearDay := 0 } := by
  decide +kernel

/-- The time of a record at the start of 1970. -/
theorem timeText_start {r : Record} (h : r.millis = 0) :
    r.timeText "" = .ok "1970-01-01 00:00:00,000" := by
  have hMoment : r.moment = .ok (Moment.ofMillis 0) := by
    rw [moment, h, ofMillis_zero]
    rfl
  rw [timeText, hMoment, ofMillis_zero]
  rfl

/-- Fields with values of every form of data. -/
def nightlyFields : List (String × Value) :=
  [("rows", .int (-12345678901234567890)), ("ok", .bool true),
   ("parts", .list [.dict [(.text "\n", .null), (.text "😀", .list [])], .text "\\"])]

/-- A record about a problem, with nested fields and characters beyond ASCII. -/
def nightlyRecord : Record where
  logger := "fluentsql.export"
  level := .info
  message := .text "Rows for %s \u2009\"done\""
  args := [.text "Größe"]
  fields := some (.dict (keyed nightlyFields))
  module := "export"
  function := none
  line := some 7
  problem := some "ValueError: boom\n"
  millis := 0

theorem read_nightlyLine :
    ∃ line, (nightlyRecord.structuredLine .static .blank "").result = .ok line ∧
      Json.read? line = some (.dict
        [(.text "timestamp", .text "1970-01-01 00:00:00,000"), (.text "level", .text "INFO"),
         (.text "logger", .text "fluentsql.export"),
         (.text "message", .text "Rows for Größe \u2009\"done\""),
         (.text "module", .text "export"), (.text "function", .null), (.text "line", .int 7),
         (.text "rows", .int (-12345678901234567890)), (.text "ok", .bool true),
         (.text "parts",
          .list [.dict [(.text "\n", .null), (.text "😀", .list [])], .text "\\"]),
         (.text "exception", .text "ValueError: boom\n")]) :=
  read_structuredLine (timeText_start rfl) rfl
    (show nightlyRecord.fields.getD (.dict []) = .dict (keyed nightlyFields) from rfl)
    (by decide) (by decide) (by decide)

end Record

/-! ## The lines of the loggers' own reports -/

namespace Hub

open Value

variable {hub : Hub}

/-- What the loggers themselves report, with its fields: a message that is logged with fields, and
that a configuration was made. -/
inductive Reports (hub : Hub) : Event → List (String × Value) → Prop
  | logged {name : String} {level message : Value} {fields : List (String × Value)} {event : Event}
      (h : event ∈ (hub.log name level message (keyed fields)).events) : Reports hub event fields
  | configured {settings : Configuration} {event : Event}
      (h : event ∈ (hub.configure settings).2.events) :
      Reports hub event
        [("level", settings.level), ("format_style", settings.style),
         ("handlers_count", .int (hub.configure settings).1.sinks.length)]

/-- Logging a message reports nothing else than the message. -/
theorem eq_of_mem_log {name : String} {level message : Value} {fields : List (Value × Value)}
    {event : Event} (h : event ∈ (hub.log name level message fields).events) :
    ∃ rank, level.int? = some rank ∧ hub.isEnabled name rank = true ∧
      event = .withFields name ⟨rank, Level.nameOf rank (level.plain .blank)⟩ message fields := by
  unfold log at h
  -- a level that is refused or not taken reports nothing, so only the last case is left
  cases hTaken : hub.isEnabledFor name level with
  | error fault =>
    rw [hTaken] at h
    exact absurd h List.not_mem_nil
  | ok taken =>
    rw [hTaken] at h
    cases taken with
    | false => exact absurd h List.not_mem_nil
    | true =>
      cases hRank : level.int? with
      | none =>
        rw [hRank] at h
        exact absurd h List.not_mem_nil
      | some rank =>
        rw [hRank] at h
        refine ⟨rank, rfl, ?_, List.mem_singleton.mp h⟩
        have hInt := isEnabledFor_int hub name hRank
        rw [hTaken] at hInt
        exact (Except.ok.inj hInt).symm

/-- A configuration reports nothing else than that it was made. -/
theorem eq_of_mem_configure {settings : Configuration} {event : Event}
    (h : event ∈ (hub.configure settings).2.events) :
    event = configuredEvent settings (hub.configure settings).1.sinks.length := by
  unfold configure configureWith at h ⊢
  cases hRank : configuredRank settings.level with
  | error fault =>
    rw [hRank] at h
    exact absurd h List.not_mem_nil
  | ok rank =>
    rw [hRank] at h
    cases hFile : fileOf settings.file with
    | error fault =>
      simp only [hFile] at h
      exact absurd h List.not_mem_nil
    | ok file =>
      simp only [hFile] at h
      exact List.mem_singleton.mp h

/-- The fields of a report are those that its record carries. -/
theorem Reports.fields_eq {event : Event} {fields : List (String × Value)}
    (h : hub.Reports event fields) : event.fields = some (.dict (keyed fields)) := by
  cases h with
  | logged h =>
    obtain ⟨rank, -, -, rfl⟩ := eq_of_mem_log h
    rfl
  | configured h =>
    rw [eq_of_mem_configure h]
    rfl

/-- **What the line of a report says.** Under each of its own names the line has the value that the
record has for it, unless a field of the report has that name: then it has the value of the last
such field. No name occurs twice. -/
theorem Reports.values_of_line {event : Event} {fields : List (String × Value)}
    (h : hub.Reports event fields) {text : Rendering} {plate : Nameplate} {pattern : String}
    {millis : Int} {line : String}
    (hLine : ((Record.ofEvent event millis).structuredLine text plate pattern).result = .ok line) :
    ∃ time message written,
      (Record.ofEvent event millis).timeText pattern = .ok time ∧
      ((Record.ofEvent event millis).messageText text plate).result = .ok message ∧
      (Json.write text (.dict (keyed written))).result = .ok line ∧
      (written.map Prod.fst).Nodup ∧
      ∀ name own, (name, own) ∈ (Record.ofEvent event millis).ownFields time message →
        lookup? (.text name) (keyed written) = some ((lastOf? name fields).getD own) := by
  obtain ⟨time, message, entries, hTime, hMessage, hEntries, hWritten⟩ :=
    Record.structuredLine_eq_ok.mp hLine
  have hFields : (Record.ofEvent event millis).fields.getD (.dict []) = .dict (keyed fields) := by
    show event.fields.getD _ = _
    rw [h.fields_eq]
    rfl
  have hDistinct : (((Record.ofEvent event millis).ownFields time message).map Prod.fst).Nodup := by
    rw [Record.ownFields_names]
    decide
  rw [Record.entries_eq hFields, Record.ownEntries_eq] at hEntries
  obtain ⟨written, hKeyed, hNodup⟩ := exists_insertEntries_keyed fields hDistinct
  -- no report of the loggers themselves is about a problem, so nothing comes after its fields
  rw [hKeyed] at hEntries
  obtain rfl : keyed written = entries := Except.ok.inj hEntries
  refine ⟨time, message, written, hTime, hMessage, hWritten, hNodup, fun name own hOwn => ?_⟩
  rw [← hKeyed, lookup?_insertEntries, lookup?_keyed hDistinct hOwn, Option.or_some]

/-- Fields of which one is named like an entry of the record's own. -/
def loginFields : List (String × Value) := [("user", .int 3), ("level", .text "low")]

def loginEvent : Event :=
  .withFields "fluentsql.app" ⟨40, "ERROR"⟩ (.text "login") (keyed loginFields)

theorem values_of_loginLine :
    ∃ line written,
      ((Record.ofEvent loginEvent 0).structuredLine .static .blank "").result = .ok line ∧
      (Json.write .static (.dict (keyed written))).result = .ok line ∧
      lookup? (.text "logger") (keyed written) = some (.text "fluentsql.app") ∧
      lookup? (.text "level") (keyed written) = some (.text "low") := by
  have hReports : Reports {} loginEvent loginFields :=
    .logged (show loginEvent ∈ (Hub.log {} "fluentsql.app" (.int 40) (.text "login")
      (keyed loginFields)).events from List.mem_singleton_self _)
  obtain ⟨line, hLine⟩ : ∃ line,
      ((Record.ofEvent loginEvent 0).structuredLine .static .blank "").result = .ok line :=
    ⟨_, Record.structuredLine_eq_ok.mpr ⟨_, _, _, Record.timeText_start rfl, rfl, rfl, rfl⟩⟩
  obtain ⟨time, message, written, -, -, hWritten, -, hValues⟩ := hReports.values_of_line hLine
  have hLogger := hValues "logger" (.text "fluentsql.app")
    (by simp [Record.ownFields, Record.ownNames, Record.ownEntries, Record.ofEvent, loginEvent,
      Event.withFields])
  have hLevel := hValues "level" (.text "ERROR")
    (by simp [Record.ownFields, Record.ownNames, Record.ownEntries, Record.ofEvent, loginEvent,
      Event.withFields])
  exact ⟨line, written, hLine, hWritten, hLogger, hLevel⟩

/-- The report of a configuration has a field that is named like one of the record's own entries:
its line gives the level that was configured as that of the record. -/
theorem level_of_configured_line :
    ∃ event line entries,
      event ∈ (configure {} { level := .text "DEBUG" }).2.events ∧
      ((Record.ofEvent event 0).structuredLine .static .blank "").result = .ok line ∧
      Json.read? line = some (.dict entries) ∧
      lookup? (.text "level") entries = some (.text "DEBUG") ∧ event.level.name = "INFO" := by
  let written : List (String × Value) :=
    [("timestamp", .text "1970-01-01 00:00:00,000"), ("level", .text "DEBUG"),
     ("logger", .text "fluentsql"), ("message", .text "fluentsql logging configured"),
     ("module", .text "logging"), ("function", .text "configure_logging"), ("line", .int 0),
     ("format_style", .text "structured"), ("handlers_count", .int 1)]
  obtain ⟨line, hLine, hRead⟩ :=
    Json.read?_write .static (show (Value.dict (keyed written)).isData = true by decide)
  refine ⟨configuredEvent { level := .text "DEBUG" } 1, line, keyed written,
    List.mem_singleton_self _, ?_, hRead, rfl, rfl⟩
  exact Record.structuredLine_eq_ok.mpr
    ⟨_, _, _, Record.timeText_start rfl, rfl, rfl, hLine⟩

end Hub

end SqlCompose
