import SqlCompose.Fault

/-!
# SqlCompose — rows of texts

A row of values can be written with a separator between them if every one of
them counts as text; otherwise the first that does not is named by its place.
-/

namespace SqlCompose

namespace Value

/-- The texts of a row whose first element has the given place. -/
def textsFrom (index : Nat) : List Value → Except Fault (List String)
  | [] => .ok []
  | item :: rest =>
    match item.text? with
    | none => .error (.notText index item)
    | some s => match textsFrom (index + 1) rest with
      | .ok texts => .ok (s :: texts)
      | .error fault => .error fault

/-- The texts of a row. -/
def texts (row : List Value) : Except Fault (List String) := textsFrom 0 row

/-- A row of texts with a separator between two neighbours. -/
def joinedTexts (separator : String) (row : List Value) : Except Fault String :=
  (texts row).map separator.intercalate

end Value

end SqlCompose
