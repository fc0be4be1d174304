import ToolScaffold.Text.Quoted.Table

/-!
# Quoted display

A text between double quotes, as messages and journals show it: on one line, with every character
that could not be seen written by its number.
-/

namespace ToolScaffold.Text

/-- A number in lower-case hexadecimal digits, without leading zeros. -/
def hex (n : Nat) : List Char := Nat.toDigits 16 n

/-- The character by its number in braces. -/
def numbered (c : Char) : List Char := ['\\', 'u', '\x7b'] ++ hex c.toNat ++ ['\x7d']

/-- How a quoted display writes one character; `marks` are the quotation marks it escapes. -/
def quotedChar (marks : List Char) (c : Char) : List Char :=
  if c = '\x00' then ['\\', '0']
  else if c = '\t' then ['\\', 't']
  else if c = '\r' then ['\\', 'r']
  else if c = '\n' then ['\\', 'n']
  else if c = '\\' || marks.contains c then ['\\', c]
  else if extendingRanges.contains c || invisibleRanges.contains c then numbered c
  else [c]

/-- The text between double quotes. -/
def quoted (s : String) : String :=
  String.ofList ('"' :: s.toList.flatMap (quotedChar ['"']) ++ ['"'])

/-- The text between double quotes, with single quotes escaped too. -/
def quotedStrictly (s : String) : String :=
  String.ofList ('"' :: s.toList.flatMap (quotedChar ['"', '\'']) ++ ['"'])

end ToolScaffold.Text
