import SqlCompose.Statement.Basic

/-!
# SqlCompose — collections of statements

Statements refer to one another by their place in a collection. A statement
that is used as a fragment is written out when the text around it is written,
not when it was handed over; so its text is that of its content at that moment.

References that run in a circle have no text. The rendering follows references
at most as deep as there are statements, which is deep enough for every
collection without circles.
-/

namespace SqlCompose

/-- A statement in a collection. -/
structure Entry where
  /-- The name that the statement was created under. -/
  label : String
  /-- The name of its class. -/
  className : String
  /-- A class of the caller's own accepts attributes that the library does not know. -/
  isOpen : Bool
  content : Statement
  deriving Inhabited

/-- Statements in the order of their creation. A statement is referred to by its place. -/
structure Store where
  entries : List Entry := []
  deriving Inhabited

namespace Store

/-- The number of statements. -/
def size (store : Store) : Nat := store.entries.length

/-- The entry that a reference names. -/
def entry? (store : Store) (ref : StatementRef) : Option Entry := store.entries[ref]?

/-- Adds a statement, and gives the reference to it. -/
def add (store : Store) (entry : Entry) : Store × StatementRef :=
  (⟨store.entries ++ [entry]⟩, store.size)

/-- Replaces the content of a statement. -/
def update (store : Store) (ref : StatementRef) (content : Statement) : Store :=
  ⟨store.entries.modify ref fun entry => { entry with content := content }⟩

/-! ## Names -/

/-- The name of the class of a statement. -/
def className (store : Store) (ref : StatementRef) : String :=
  ((store.entry? ref).map Entry.className).getD ""

/-- The short form of a statement: its class and its table. -/
def shownWithin (store : Store) : Nat → StatementRef → String
  | 0, _ => "..."
  | depth + 1, ref =>
    match store.entry? ref with
    | some entry =>
      entry.className ++ "(table="
        ++ entry.content.table.shown ⟨store.className, store.shownWithin depth⟩ ++ ")"
    | none => "..."

/-- What is known of the statements of a collection by name. -/
def nameplate (store : Store) : Nameplate :=
  ⟨store.className, store.shownWithin (store.size + 1)⟩

/-! ## Texts -/

/-- What stands for a value in a text, following references to a given depth. -/
def textWithin (store : Store) : Nat → Rendering
  | 0, .statement _ => Logged.fail .circular
  | depth + 1, .statement ref =>
    match store.entry? ref with
    | some entry => entry.content.render (store.textWithin depth)
    | none => Logged.fail .circular
  | _, v => pure (v.formatted store.nameplate)

/-- What stands for a value in a text; a statement is written out as it is now. -/
def text (store : Store) : Rendering := store.textWithin store.size

/-- The text of a statement. -/
def build (store : Store) (ref : StatementRef) : Logged String := store.text (.statement ref)

/-- The answer of a statement to a call; a call that its kind does not know is refused in the name
of its class. -/
def call (store : Store) (ref : StatementRef) (entry : Entry) (call : Call) : Answer Store :=
  if entry.content.kind.operations.contains call.name then
    (entry.content.apply store.text call).map (store.update ref)
  else ⟨store, Logged.fail (.noSlot entry.className call.name)⟩

/-- Gives an attribute of a statement a new value. Of the library's own attributes only the table
is open to this, and it is not checked; a statement of the caller's own class accepts any other
name and does not look at it. -/
def setAttribute (store : Store) (ref : StatementRef) (entry : Entry) (name : String)
    (value : Value) : Except Fault Store :=
  if name = "table" then .error (.noSetter entry.className name)
  else if name = "_table" then .ok (store.update ref (entry.content.withTable value))
  else if entry.isOpen then .ok store
  else if entry.content.kind.operations.contains name then
    .error (.readOnly entry.className name)
  else .error (.noSlot entry.className name)

end Store

end SqlCompose
