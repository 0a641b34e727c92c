import SqlCompose.Value.Row

/-!
# SqlCompose — problems

A problem is an error that was raised: its class, its arguments and, for the
library's own classes, a detail. The detail is what was given as such, or else
the first text among the arguments, or else what the class says; the arguments
that remain are texts. A problem may be caused by another, or have occurred
while another was being handled; the report of a problem writes the earlier one
first.
-/

namespace SqlCompose

/-- An error that was raised. -/
structure Problem where
  errorClass : ErrorClass
  /-- The name of the caller's own class, if the error is of one. -/
  ownName : Option String
  args : List Value
  /-- The detail; the built-in classes have none. -/
  detail : Value
  deriving Inhabited

namespace Problem

/-- The message of a statement error that was given none. -/
def defaultMessage : String := "Issues building SQL statement."

/-- The texts of the arguments that count as true. -/
def texts (args : List Value) : List Value :=
  (args.filter Value.isTrue).map fun v => .text (v.plain .blank)

/-- The arguments and the detail of an error of the library's own classes. -/
def settle (args : List Value) (detail : Value) (classDetail : Option Value) :
    List Value × Value :=
  if detail.isTrue then (texts args, detail)
  else match texts args with
    | first :: rest => (rest, first)
    | [] => ([], classDetail.getD detail)

/-- An error of the base class. -/
def general (args : List Value) (detail : Value) (ownName : Option String)
    (classDetail : Option Value) : Problem :=
  let settled := settle args detail classDetail
  ⟨.general, ownName, settled.1, settled.2⟩

/-- The argument that a statement error is made from. -/
def statementMessage : Value → Value
  | .null => .text defaultMessage
  | message => message

/-- A statement error; without a message it has the default one. -/
def statement (message : Value) (ownName : Option String) (classDetail : Option Value) :
    Problem :=
  let settled := settle [statementMessage message] (.text "") classDetail
  ⟨.statement, ownName, settled.1, settled.2⟩

/-- An error of a built-in class. -/
def builtIn (errorClass : ErrorClass) (args : List Value) (ownName : Option String) : Problem :=
  ⟨errorClass, ownName, args, .null⟩

/-- An error of any class. -/
def create (errorClass : ErrorClass) (args : List Value) (detail : Value)
    (ownName : Option String) (classDetail : Option Value) : Problem :=
  match errorClass with
  | .general => general args detail ownName classDetail
  | .statement => statement (args.headD .null) ownName classDetail
  | other => builtIn other args ownName

/-- The name of the class of a problem. -/
def className (p : Problem) : String := p.ownName.getD p.errorClass.name

/-- The text of an error of a built-in class: its single argument, or all of them in brackets. A
missing key is quoted. -/
def builtInText (errorClass : ErrorClass) : List Value → String
  | [] => ""
  | [one] => if errorClass = .key then one.shown .blank else one.plain .blank
  | args => (Value.tuple args).shown .blank

/-- The text of a problem: for the library's own classes the arguments and the detail, separated by
spaces and without blanks at the ends. -/
def text (p : Problem) : Except Fault String :=
  if p.errorClass.isOwn then
    (Value.joinedTexts " " (p.args ++ [p.detail])).map Text.strip
  else .ok (builtInText p.errorClass p.args)

/-- The short form of a problem of the library's own classes. -/
def shown (p : Problem) : String :=
  if p.detail.isTrue then p.className ++ " - " ++ p.detail.formatted .blank else p.className

/-! ## Reports -/

/-- The module of the library's own classes. -/
def ownModule : String := "fluentsql.exceptions"

/-- The name of the class with the module that defines it; built-in classes go without one. -/
def qualifiedName (p : Problem) : String :=
  match p.ownName with
  | some name => "app." ++ name
  | none =>
    if p.errorClass.isOwn then ownModule ++ "." ++ p.errorClass.name else p.errorClass.name

/-- The line of a report that is about the problem alone. -/
def line (p : Problem) : String :=
  match p.text with
  | .ok "" => p.qualifiedName
  | .ok s => p.qualifiedName ++ ": " ++ s
  | .error _ => p.qualifiedName ++ ": <exception str() failed>"

end Problem

/-- A problem with what came before it. -/
inductive ProblemChain where
  | single (problem : Problem)
  | causedBy (problem : Problem) (cause : ProblemChain)
  | during (problem : Problem) (context : ProblemChain)
  deriving Inhabited

namespace ProblemChain

/-- The report of a chain: the earliest problem first, with a sentence between two problems. -/
def report : ProblemChain → String
  | single problem => problem.line
  | causedBy problem cause =>
    cause.report
      ++ "\n\nThe above exception was the direct cause of the following exception:\n\n"
      ++ problem.line
  | during problem context =>
    context.report
      ++ "\n\nDuring handling of the above exception, another exception occurred:\n\n"
      ++ problem.line

/-- The report where there should be a problem and there is none. -/
def emptyReport : String := "NoneType: None"

end ProblemChain

end SqlCompose
