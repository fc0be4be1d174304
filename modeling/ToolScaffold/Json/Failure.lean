import ToolScaffold.Json.Printer
import ToolScaffold.Text.Quoted

/-!
# Why a document cannot be read

A reader that stops knows the cause, the text that is left, and how many bytes of it it has looked
at. The line and the column are worked out from the whole text afterwards: lines end at a line feed,
and a column counts bytes, so that column 0 is the place after a line feed.
-/

namespace ToolScaffold.Json

inductive Cause where
  | endInValue
  | endInList
  | endInObject
  | endInString
  | missingColon
  | missingListComma
  | missingObjectComma
  | notALiteral
  | notAValue
  | invalidEscape
  | invalidNumber
  | numberOutOfRange
  | controlCharacter
  | keyNotAString
  | loneSurrogate
  | endOfHexEscape
  | trailingComma
  | trailingCharacters
  | tooDeep
  | wrongType (found : Json) (expected : String)
  | missingField (name : String)
  | duplicateField (name : String)
  | wrongLength (length : Nat) (expected : String)
  | unknownVariant (found : String) (known : List String)

/-- A value as messages about its type show it. -/
def describe : Json → String
  | .null => "null"
  | .bool b => "boolean `" ++ (if b then "true" else "false") ++ "`"
  | .num (.int n) => "integer `" ++ String.ofList (intChars n) ++ "`"
  | .num (.float x) => "floating point `" ++ String.ofList (floatChars x) ++ "`"
  | .str s => "string " ++ Text.quoted s
  | .arr _ => "sequence"
  | .obj _ => "map"

/-- Alternatives as messages list them. -/
def alternatives (names : List String) : String :=
  match names.map fun name => "`" ++ name ++ "`" with
  | [a, b] => a ++ " or " ++ b
  | names => ", ".intercalate names

def Cause.message : Cause → String
  | endInValue => "EOF while parsing a value"
  | endInList => "EOF while parsing a list"
  | endInObject => "EOF while parsing an object"
  | endInString => "EOF while parsing a string"
  | missingColon => "expected `:`"
  | missingListComma => "expected `,` or `]`"
  | missingObjectComma => "expected `,` or `\x7d`"
  | notALiteral => "expected ident"
  | notAValue => "expected value"
  | invalidEscape => "invalid escape"
  | invalidNumber => "invalid number"
  | numberOutOfRange => "number out of range"
  | controlCharacter => "control character (\\u0000-\\u001F) found while parsing a string"
  | keyNotAString => "key must be a string"
  | loneSurrogate => "lone leading surrogate in hex escape"
  | endOfHexEscape => "unexpected end of hex escape"
  | trailingComma => "trailing comma"
  | trailingCharacters => "trailing characters"
  | tooDeep => "recursion limit exceeded"
  | wrongType found expected => "invalid type: " ++ describe found ++ ", expected " ++ expected
  | missingField name => "missing field `" ++ name ++ "`"
  | duplicateField name => "duplicate field `" ++ name ++ "`"
  | wrongLength length expected =>
    "invalid length " ++ String.ofList (natChars length) ++ ", expected " ++ expected
  | unknownVariant found known =>
    "unknown variant `" ++ found ++ "`, expected " ++ alternatives known

/-- Where and why a reader stopped: before `rest`, having looked at `seen` bytes of it. -/
structure Failure where
  cause : Cause
  rest : List Char
  seen : Nat

structure ReadError where
  cause : Cause
  line : Nat
  column : Nat

namespace ReadError

/-- The number of bytes of a text in UTF-8. -/
def byteCount : List Char → Nat
  | [] => 0
  | c :: rest => c.utf8Size + byteCount rest

/-- The line and column after the first `bytes` bytes, starting from the given ones. -/
def position (line column : Nat) : List Char → (bytes : Nat) → Nat × Nat
  | [], _ => (line, column)
  | c :: rest, bytes =>
    if bytes = 0 then (line, column)
    else if c = '\n' then position (line + 1) 0 rest (bytes - 1)
    else position line (column + min bytes c.utf8Size) rest (bytes - c.utf8Size)

/-- Places a failure in the whole text. -/
def ofFailure (whole : List Char) (failure : Failure) : ReadError :=
  let (line, column) := position 1 0 whole (byteCount whole - byteCount failure.rest + failure.seen)
  ⟨failure.cause, line, column⟩

def message (e : ReadError) : String :=
  e.cause.message ++ " at line " ++ String.ofList (natChars e.line) ++ " column " ++
    String.ofList (natChars e.column)

end ReadError

end ToolScaffold.Json
