/-!
# Characters of YAML texts

The classes of characters that the tokens of a YAML text are told apart by, and the place of a
character in the text. A carriage return with a line feed after it is one line break.
-/

namespace ToolScaffold.Yaml

/-- The characters that a text may hold. -/
def isAllowed (c : Char) : Bool :=
  let n := c.toNat
  n = 0x09 || n = 0x0A || n = 0x0D || (0x20 ≤ n && n ≤ 0x7E) || n = 0x85 ||
    (0xA0 ≤ n && n ≤ 0xD7FF) || (0xE000 ≤ n && n ≤ 0xFFFD) || 0x10000 ≤ n

/-- The mark that a text may begin with. -/
def byteOrderMark : Char := Char.ofNat 0xFEFF

def nextLine : Char := Char.ofNat 0x85

def isBlank (c : Char) : Bool := c = ' ' || c = '\t'

def isBreak (c : Char) : Bool :=
  c = '\n' || c = '\r' || c = nextLine || c.toNat = 0x2028 || c.toNat = 0x2029

def isBlankOrBreak (c : Char) : Bool := isBlank c || isBreak c

/-- A character of the name of an anchor, a directive or a tag handle. -/
def isWord (c : Char) : Bool := c.isAlphanum || c = '_' || c = '-'

/-- Whether the text is at its end or goes on with a character of the class. -/
def endsOr (p : Char → Bool) : List Char → Bool
  | [] => true
  | c :: _ => p c

/-- Whether a line that begins here is a document marker. -/
def isMarker (mark : Char) : List Char → Bool
  | a :: b :: c :: rest => a = mark && b = mark && c = mark && endsOr isBlankOrBreak rest
  | _ => false

/-- Whether a line that begins here separates documents. -/
def isAnyMarker (cs : List Char) : Bool := isMarker '-' cs || isMarker '.' cs

/-- A line break as it counts inside of a scalar. -/
def normalBreak (c : Char) : Char := if c = '\r' ∨ c = nextLine then '\n' else c

/-- Takes a line break off the front of a text, if there is one. -/
def takeBreak : List Char → List Char × List Char
  | '\r' :: '\n' :: rest => (['\n'], rest)
  | c :: rest => if isBreak c then ([normalBreak c], rest) else ([], c :: rest)
  | [] => ([], [])

/-- The line breaks among the characters, in order. -/
def lineBreaks : List Char → List Char
  | '\r' :: '\n' :: rest => '\n' :: lineBreaks rest
  | c :: rest => if isBreak c then normalBreak c :: lineBreaks rest else lineBreaks rest
  | [] => []

/-- What a stretch of blanks and line breaks inside of a scalar stands for: blanks for themselves,
one line break for a space, and more for all but the first. -/
def folded (gap : List Char) : List Char :=
  match lineBreaks gap with
  | [] => gap
  | ['\n'] => [' ']
  | '\n' :: more => more
  | breaks => breaks

structure Position where
  index : Nat
  line : Nat
  column : Nat
  deriving DecidableEq, Repr

def Position.after (p : Position) : List Char → Position
  | '\r' :: '\n' :: rest => Position.after ⟨p.index + 2, p.line + 1, 0⟩ rest
  | c :: rest =>
    if isBreak c then Position.after ⟨p.index + 1, p.line + 1, 0⟩ rest
    else Position.after ⟨p.index + 1, p.line, p.column + 1⟩ rest
  | [] => p

end ToolScaffold.Yaml
