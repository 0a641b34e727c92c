import SqlCompose.Text.Blank
import SqlCompose.Text.Uppercase

/-!
# SqlCompose — the closed sets of keywords

A join has one of four kinds and an ordering one of two directions. Each member
has a name and the keyword it writes; for a join kind the two are the same. A
caller may also give a member by a word, in any case and between blanks.
-/

namespace SqlCompose

/-- The kind of a join. -/
inductive JoinKind where
  | inner
  | left
  | right
  | full
  deriving DecidableEq, Inhabited

namespace JoinKind

/-- All join kinds, in the order of their definition. -/
def all : List JoinKind := [.inner, .left, .right, .full]

/-- The keyword in front of JOIN. -/
def keyword : JoinKind → String
  | inner => "INNER"
  | left => "LEFT"
  | right => "RIGHT"
  | full => "FULL"

/-- The name of the member. -/
def name (kind : JoinKind) : String := kind.keyword

/-- The name of the set. -/
def setName : String := "JoinType"

/-- The member whose keyword is exactly the text. -/
def ofKeyword? (s : String) : Option JoinKind := all.find? fun kind => kind.keyword == s

/-- The member that a word names: blanks around it and its case do not matter. -/
def ofWord? (s : String) : Option JoinKind := ofKeyword? (Text.uppercase (Text.strip s))

end JoinKind

/-- The direction of an ordering. -/
inductive SortOrder where
  | ascending
  | descending
  deriving DecidableEq, Inhabited

namespace SortOrder

/-- Both directions, in the order of their definition. -/
def all : List SortOrder := [.ascending, .descending]

/-- The keyword behind the column. -/
def keyword : SortOrder → String
  | ascending => "ASC"
  | descending => "DESC"

/-- The name of the member. -/
def name : SortOrder → String
  | ascending => "ASCENDING"
  | descending => "DESCENDING"

/-- The name of the set. -/
def setName : String := "OrderDirection"

/-- The member whose keyword is exactly the text. -/
def ofKeyword? (s : String) : Option SortOrder := all.find? fun order => order.keyword == s

/-- The member that a word names by keyword or by name: blanks around it and its case do not
matter. -/
def ofWord? (s : String) : Option SortOrder :=
  let word := Text.uppercase (Text.strip s)
  all.find? fun order => word == order.keyword || word == order.name

end SortOrder

end SqlCompose
