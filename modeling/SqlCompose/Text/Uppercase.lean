/-!
# SqlCompose — words in upper case

Keywords are compared without regard to case, by the full Unicode upper-case
mapping. Since every keyword is made of ASCII letters, only characters whose
upper case is ASCII matter: the ASCII letters themselves, and ten others, of which
eight become more than one letter.
-/

namespace SqlCompose

namespace Text

/-- The upper case of a character as far as ASCII words can see it. Characters whose upper case
lies beyond ASCII stay as they are, since they match no letter of a keyword either way. -/
def uppercaseChar : Char → List Char
  | '\u0131' => ['I']
  | '\u017f' => ['S']
  | '\u00df' => ['S', 'S']
  | '\ufb00' => ['F', 'F']
  | '\ufb01' => ['F', 'I']
  | '\ufb02' => ['F', 'L']
  | '\ufb03' => ['F', 'F', 'I']
  | '\ufb04' => ['F', 'F', 'L']
  | '\ufb05' => ['S', 'T']
  | '\ufb06' => ['S', 'T']
  | c => [c.toUpper]

/-- A text in upper case, for comparison with ASCII keywords. -/
def uppercase (s : String) : String := String.ofList (s.toList.flatMap uppercaseChar)

end Text

end SqlCompose
