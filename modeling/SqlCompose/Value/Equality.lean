import SqlCompose.Value.Basic

/-!
# SqlCompose — equality of values

Equality looks at what a value stands for: numbers of different types are
compared by value, a member of a closed set equals its keyword, containers of
one type are compared by their elements, and statements equal only themselves.
What is no number equals nothing, not even itself, and nor does a sequence that
can be gone through once. A value of another type equals itself, or as an integer
the same number.

Equality also decides what is one key of a table of entries. Such a table keeps
the order in which its keys first arrived (`Value.insertEntry`); lists, tables
and sets cannot be keys (`Value.unkeyable?`).
-/

namespace SqlCompose

namespace Value

/-- Equality of two values that are not containers. -/
def equalAtoms : Value → Value → Bool
  | null, null => true
  | float x, float y => x.sameValue y
  | bytes a, bytes b => a == b
  | statement a, statement b => a == b
  | object a, object b =>
    match a.number?, b.number? with
    | some m, some n => m == n
    | _, _ => a == b
  | float x, b => (b.int?.map x.equalsInt).getD false
  | a, float y => (a.int?.map y.equalsInt).getD false
  | a, b =>
    match a.int?, b.int?, a.text?, b.text? with
    | some m, some n, _, _ => m == n
    | _, _, some s, some t => s == t
    | _, _, _, _ => false

mutual

/-- Equality of two values. -/
def equal : Value → Value → Bool
  | list as, list bs => equalRows as bs
  | tuple as, tuple bs => equalRows as bs
  | set as, set bs => as.length == bs.length && allAmong as bs
  | dict as, dict bs => as.length == bs.length && allEntriesAmong as bs
  | a, b => equalAtoms a b
termination_by structural a => a

/-- Equality of two rows of values, element by element. -/
def equalRows : List Value → List Value → Bool
  | [], [] => true
  | a :: as, b :: bs => equal a b && equalRows as bs
  | _, _ => false
termination_by structural as => as

/-- Every value of the first row has an equal in the second. -/
def allAmong : List Value → List Value → Bool
  | [], _ => true
  | a :: as, bs => bs.any (fun b => equal a b) && allAmong as bs
termination_by structural as => as

/-- Every entry of the first table has its key in the second, with an equal value. -/
def allEntriesAmong : List (Value × Value) → List (Value × Value) → Bool
  | [], _ => true
  | (key, a) :: as, bs =>
    (match bs.find? fun entry => equal key entry.1 with
      | some entry => equal a entry.2
      | none => false) && allEntriesAmong as bs
termination_by structural as => as

end

/-! ## Tables of entries -/

/-- The value that a table holds under a key. -/
def lookup? (key : Value) (entries : List (Value × Value)) : Option Value :=
  (entries.find? fun entry => equal key entry.1).map Prod.snd

/-- Writes a value under a key. A key that is present keeps its place and its spelling; a new
key goes to the end. -/
def insertEntry (key value : Value) : List (Value × Value) → List (Value × Value)
  | [] => [(key, value)]
  | entry :: rest =>
    if equal key entry.1 then (entry.1, value) :: rest else entry :: insertEntry key value rest

/-- A table with further entries, written one after the other. -/
def insertEntries (added entries : List (Value × Value)) : List (Value × Value) :=
  added.foldl (fun table entry => insertEntry entry.1 entry.2 table) entries

/-- A table built by writing entries one after the other. -/
def ofEntries (entries : List (Value × Value)) : List (Value × Value) := insertEntries entries []

mutual

/-- The first part of a value that cannot be a key: a list, a dictionary or a set, also inside
a tuple. -/
def unkeyable? : Value → Option Value
  | list items => some (list items)
  | dict entries => some (dict entries)
  | set items => some (set items)
  | tuple items => unkeyableIn? items
  | _ => none

/-- The first part of a row of values that cannot be a key. -/
def unkeyableIn? : List Value → Option Value
  | [] => none
  | v :: vs => match unkeyable? v with
    | some part => some part
    | none => unkeyableIn? vs

end

end Value

end SqlCompose
