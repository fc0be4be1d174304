import ToolScaffold.Decimal.Shortest
import ToolScaffold.Json.Basic

/-!
# Writing JSON

One printer for two layouts: compact, on one line without blanks, and indented by two spaces a
level. Strings escape the quotation mark, the backslash and the control characters and keep all
else; numbers are written with the fewest digits that read back.
-/

namespace ToolScaffold.Json

/-! ## Strings -/

def hexDigit (n : Nat) : Char := Nat.digitChar n

/-- How one character is written inside of a string. -/
def escapeChar (c : Char) : List Char :=
  if c = '"' then ['\\', '"']
  else if c = '\\' then ['\\', '\\']
  else if c = '\x08' then ['\\', 'b']
  else if c = '\x0c' then ['\\', 'f']
  else if c = '\n' then ['\\', 'n']
  else if c = '\r' then ['\\', 'r']
  else if c = '\t' then ['\\', 't']
  else if c.toNat < 0x20 then ['\\', 'u', '0', '0', hexDigit (c.toNat / 16), hexDigit (c.toNat % 16)]
  else [c]

/-- The characters between the quotation marks. -/
def escape (cs : List Char) : List Char := cs.flatMap escapeChar

def stringChars (s : String) : List Char := '"' :: escape s.toList ++ ['"']

/-! ## Numbers -/

def natChars (n : Nat) : List Char := Nat.toDigits 10 n

def intChars (n : Int) : List Char :=
  if n < 0 then '-' :: natChars n.natAbs else natChars n.natAbs

/-- A positive decimal: positional from `1e-5` up to but not including `1e16`, and with one digit
before the point and a signed exponent elsewhere. A whole number shows `.0`. -/
def decimalChars (d : Decimal) : List Char :=
  let digits := natChars d.digits
  -- the number of digits before the point
  let whole : Int := digits.length + d.exponent
  if 0 ≤ d.exponent ∧ whole ≤ 16 then
    digits ++ List.replicate d.exponent.toNat '0' ++ ['.', '0']
  else if 0 < whole ∧ whole ≤ 16 then
    digits.take whole.toNat ++ '.' :: digits.drop whole.toNat
  else if -5 < whole ∧ whole ≤ 0 then
    '0' :: '.' :: List.replicate (-whole).toNat '0' ++ digits
  else
    let fraction := if digits.length ≤ 1 then [] else '.' :: digits.drop 1
    let sign := if whole - 1 < 0 then '-' else '+'
    digits.take 1 ++ fraction ++ 'e' :: sign :: natChars (whole - 1).natAbs

/-- A double; one that is not finite has no literal and is written as null. -/
def floatChars (x : Float) : List Char :=
  let bits := x.toBits
  let sign := if bits.toNat >>> 63 = 1 then ['-'] else []
  if bits.toNat >>> 52 % 0x800 = 0x7FF then ['n', 'u', 'l', 'l']
  else if bits.toNat % 0x8000000000000000 = 0 then sign ++ ['0', '.', '0']
  else sign ++ decimalChars (Binary.ofBits bits).shortest

def numberChars : Number → List Char
  | .int n => intChars n
  | .float x => floatChars x

/-! ## Values -/

/-- How the parts of a value are laid out. -/
inductive Layout where
  | compact
  | indented

/-- What stands before an item or a closing bracket at a nesting level. -/
def Layout.lineBreak : Layout → Nat → List Char
  | .compact, _ => []
  | .indented, level => '\n' :: List.replicate (2 * level) ' '

/-- What stands between a key and its value. -/
def Layout.colon : Layout → List Char
  | .compact => [':']
  | .indented => [':', ' ']

mutual

/-- The value as it stands at a nesting level. -/
def chars (layout : Layout) (level : Nat) : Json → List Char
  | .null => ['n', 'u', 'l', 'l']
  | .bool true => ['t', 'r', 'u', 'e']
  | .bool false => ['f', 'a', 'l', 's', 'e']
  | .num n => numberChars n
  | .str s => stringChars s
  | .arr [] => ['[', ']']
  | .arr (item :: rest) =>
    '[' :: layout.lineBreak (level + 1) ++ chars layout (level + 1) item ++
      itemChars layout (level + 1) rest ++ layout.lineBreak level ++ [']']
  | .obj [] => ['\x7b', '\x7d']
  | .obj ((key, value) :: rest) =>
    '\x7b' :: layout.lineBreak (level + 1) ++ stringChars key ++ layout.colon ++
      chars layout (level + 1) value ++
      fieldChars layout (level + 1) rest ++ layout.lineBreak level ++ ['\x7d']

/-- The items after the first. -/
def itemChars (layout : Layout) (level : Nat) : List Json → List Char
  | [] => []
  | item :: rest =>
    ',' :: layout.lineBreak level ++ chars layout level item ++ itemChars layout level rest

/-- The fields after the first. -/
def fieldChars (layout : Layout) (level : Nat) : List (String × Json) → List Char
  | [] => []
  | (key, value) :: rest =>
    ',' :: layout.lineBreak level ++ stringChars key ++ layout.colon ++ chars layout level value ++
      fieldChars layout level rest

end

/-- The value on one line. -/
def compact (v : Json) : String := String.ofList (v.chars .compact 0)

/-- The value over several lines, two spaces a level. -/
def indented (v : Json) : String := String.ofList (v.chars .indented 0)

def quote (s : String) : String := String.ofList (stringChars s)

end ToolScaffold.Json
