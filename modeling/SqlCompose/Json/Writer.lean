import SqlCompose.Json.Text
import SqlCompose.Logged

/-!
# SqlCompose — values as JSON

Null, truth values, numbers, texts, rows and tables are written as JSON; a
member of a closed set is its keyword, and a value of another type that is an
integer is a number. Whatever else occurs is written as the string of its plain
form. Two things are not JSON in the strict sense: infinities
and what is no number are written as bare words. A table may have keys of the
simple types only.
-/

namespace SqlCompose

namespace Json

/-- A truth value. -/
def truth (b : Bool) : String := if b then "true" else "false"

/-- A number of binary64: its natural text, or a bare word. -/
def number (x : Binary64) : String :=
  if x.isNaN then "NaN"
  else if x.isInfinite then (if x.isNegative then "-Infinity" else "Infinity")
  else x.text

/-- A value of another type: the integer that it is, or else the string of its plain form. -/
def ofObject (o : Object) : String :=
  match o.number? with
  | some n => toString n
  | none => string o.plain

/-- A key of a table, as the text that stands in quotes. -/
def key : Value → Except Fault String
  | .text s => .ok s
  | .join kind => .ok kind.keyword
  | .order direction => .ok direction.keyword
  | .float x => .ok (number x)
  | .bool b => .ok (truth b)
  | .null => .ok "null"
  | .int n => .ok (toString n)
  | .object o => match o.number? with
    | some n => .ok (toString n)
    | none => .error (.notFieldKey (.object o))
  | other => .error (.notFieldKey other)

/-- A row of written elements. -/
def array (parts : List String) : String := "[" ++ ", ".intercalate parts ++ "]"

/-- A table of written entries. -/
def object (parts : List String) : String := "\x7b" ++ ", ".intercalate parts ++ "\x7d"

mutual

/-- A value as JSON. -/
def write (text : Rendering) : Value → Logged String
  | .null => pure "null"
  | .bool b => pure (truth b)
  | .int n => pure (toString n)
  | .float x => pure (number x)
  | .text s => pure (string s)
  | .join kind => pure (string kind.keyword)
  | .order direction => pure (string direction.keyword)
  | .list items => do
    let parts ← writeAll text items
    pure (array parts)
  | .tuple items => do
    let parts ← writeAll text items
    pure (array parts)
  | .dict entries => do
    let parts ← writeEntries text entries
    pure (object parts)
  | .object o => pure (ofObject o)
  | other => do
    let written ← text other
    pure (string written)

/-- Values as JSON, in order. -/
def writeAll (text : Rendering) : List Value → Logged (List String)
  | [] => pure []
  | v :: rest => do
    let part ← write text v
    let parts ← writeAll text rest
    pure (part :: parts)

/-- The entries of a table as JSON, in order. -/
def writeEntries (text : Rendering) : List (Value × Value) → Logged (List String)
  | [] => pure []
  | (name, v) :: rest => do
    let written ← Logged.ofExcept (key name)
    let part ← write text v
    let parts ← writeEntries text rest
    pure ((string written ++ ": " ++ part) :: parts)

end

/-! ## Rows and tables -/

section

variable {text : Rendering} {v : Value}

theorem write_list_eq_ok {items : List Value} {s : String} :
    (write text (.list items)).result = .ok s ↔
      ∃ parts, (writeAll text items).result = .ok parts ∧ array parts = s := by
  rw [write, Logged.result_bind_pure_eq_ok]

theorem write_tuple_eq_ok {items : List Value} {s : String} :
    (write text (.tuple items)).result = .ok s ↔
      ∃ parts, (writeAll text items).result = .ok parts ∧ array parts = s := by
  rw [write, Logged.result_bind_pure_eq_ok]

theorem write_dict_eq_ok {entries : List (Value × Value)} {s : String} :
    (write text (.dict entries)).result = .ok s ↔
      ∃ parts, (writeEntries text entries).result = .ok parts ∧ object parts = s := by
  rw [write, Logged.result_bind_pure_eq_ok]

/-- A row is written if its first element and the rest of it are. -/
theorem writeAll_cons_eq_ok {rest : List Value} {parts : List String} :
    (writeAll text (v :: rest)).result = .ok parts ↔
      ∃ first others, (write text v).result = .ok first ∧
        (writeAll text rest).result = .ok others ∧ first :: others = parts := by
  simp only [writeAll, Logged.result_bind_eq_ok, Logged.result_pure, Except.ok.injEq,
    exists_and_left]

/-- A table is written if the name and the value of its first entry are, and the rest of it. -/
theorem writeEntries_cons_eq_ok {name : Value} {rest : List (Value × Value)}
    {parts : List String} :
    (writeEntries text ((name, v) :: rest)).result = .ok parts ↔
      ∃ written first others, key name = .ok written ∧ (write text v).result = .ok first ∧
        (writeEntries text rest).result = .ok others ∧
          (string written ++ ": " ++ first) :: others = parts := by
  simp only [writeEntries, Logged.result_bind_eq_ok, Logged.result_pure, Logged.ofExcept,
    Except.ok.injEq, exists_and_left]

end

end Json

end SqlCompose
