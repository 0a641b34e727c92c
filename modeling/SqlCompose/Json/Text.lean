import SqlCompose.Text.Quoted

/-!
# SqlCompose — strings in JSON

A string is written in ASCII alone: the quote, the backslash and five control
characters have escapes of two characters, every other character outside the
range from the space to the tilde is written by its code in four hexadecimal
digits, as a pair of such codes if it lies beyond the basic plane.
-/

namespace SqlCompose

namespace Json

/-- A code of sixteen bits as an escape. -/
def unitEscape (n : Nat) : List Char := ['\\', 'u'] ++ Text.hexDigits 4 n

/-- The escape of a character by its code. -/
def codeEscape (n : Nat) : List Char :=
  if n < 0x10000 then unitEscape n
  else unitEscape (0xD800 + (n - 0x10000) / 0x400) ++ unitEscape (0xDC00 + (n - 0x10000) % 0x400)

/-- A character of a string. -/
def escapedChar (c : Char) : List Char :=
  if c = '\x22' then ['\\', '\x22']
  else if c = '\\' then ['\\', '\\']
  else if c = '\n' then ['\\', 'n']
  else if c = '\r' then ['\\', 'r']
  else if c = '\t' then ['\\', 't']
  else if c = '\x0c' then ['\\', 'f']
  else if c = '\x08' then ['\\', 'b']
  else if 0x20 ≤ c.toNat ∧ c.toNat ≤ 0x7E then [c]
  else codeEscape c.toNat

/-- The characters between the quotes. -/
def escaped (cs : List Char) : List Char := cs.flatMap escapedChar

/-- A string with its quotes. -/
def string (s : String) : String :=
  String.ofList ('\x22' :: escaped s.toList ++ ['\x22'])

end Json

end SqlCompose
