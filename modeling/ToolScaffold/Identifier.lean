import ToolScaffold.Text.LowerCase

/-!
# Identifiers

The name of a tool's function is derived from the tool's name. Deriving only lower-cases and
replaces spaces and hyphens, so the result need not be an identifier; `isValid` tells.
-/

namespace ToolScaffold.Identifier

def underscored (c : Char) : Char := if c = ' ' ∨ c = '-' then '_' else c

/-- The name in lower case, with underscores for spaces and hyphens. -/
def derive (name : String) : String :=
  Text.lower (String.ofList (name.toList.map underscored))

/-- Whether an identifier may begin with the character. -/
def isStart (c : Char) : Bool := c.isAlpha || c = '_'

/-- Whether an identifier may go on with the character. -/
def isPart (c : Char) : Bool := isStart c || c.isDigit

/-- The reserved words of the language of the generated server. -/
def keywords : List String := [
  "False", "None", "True", "and", "as", "assert", "async", "await", "break", "class", "continue",
  "def", "del", "elif", "else", "except", "finally", "for", "from", "global", "if", "import", "in",
  "is", "lambda", "nonlocal", "not", "or", "pass", "raise", "return", "try", "while", "with",
  "yield"]

/-- Whether the text has the form of an identifier. -/
def hasForm : List Char → Bool
  | [] => false
  | c :: rest => isStart c && rest.all isPart

/-- Whether a function or a parameter may have the name. -/
def isValid (name : String) : Bool := hasForm name.toList && !keywords.contains name

end ToolScaffold.Identifier
