/-!
# SqlCompose — blank characters

A text is blank, and a word is surrounded by blanks, in the sense of one
class of twenty-nine characters: the Unicode property White_Space together
with the four information separators. `Text.strip` takes them off both ends.
-/

namespace SqlCompose

namespace Text

/-- Closed ranges of the blank characters, ascending and apart. -/
def blankRanges : List (Nat × Nat) :=
  [(0x09, 0x0D), (0x1C, 0x20), (0x85, 0x85), (0xA0, 0xA0), (0x1680, 0x1680), (0x2000, 0x200A),
   (0x2028, 0x2029), (0x202F, 0x202F), (0x205F, 0x205F), (0x3000, 0x3000)]

/-- A number lies in one of the ranges. -/
def inRanges (ranges : List (Nat × Nat)) (n : Nat) : Bool :=
  ranges.any fun range => decide (range.1 ≤ n) && decide (n ≤ range.2)

/-- A character of the blank class. -/
def isBlank (c : Char) : Bool := inRanges blankRanges c.toNat

/-- Characters without the blanks at either end. -/
def stripChars (cs : List Char) : List Char :=
  ((cs.dropWhile isBlank).reverse.dropWhile isBlank).reverse

/-- A text without the blanks at either end. -/
def strip (s : String) : String := String.ofList (stripChars s.toList)

/-- A text of blanks only; the empty text is one. -/
def isAllBlank (s : String) : Bool := s.toList.all isBlank

end Text

end SqlCompose
