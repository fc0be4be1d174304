import ToolScaffold.Json.Printer

/-!
# Literals of the generated server

A text becomes a literal between double quotes, on one line, with the escapes of JSON, which the
language of the server shares. Inside of a documentation text, between three double quotes, only
backslashes and double quotes are escaped, so that it may span lines.
-/

namespace ToolScaffold.Server

def literal (s : String) : String := Json.quote s

/-- How one character is written inside of a documentation text. -/
def docChar (c : Char) : List Char :=
  if c = '\\' then ['\\', '\\']
  else if c = '"' then ['\\', '"']
  else [c]

/-- A text as it is written inside of a documentation text. -/
def docText (s : String) : String := String.ofList (s.toList.flatMap docChar)

end ToolScaffold.Server
