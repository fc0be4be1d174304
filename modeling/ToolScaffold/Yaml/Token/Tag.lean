import ToolScaffold.Yaml.Token
import ToolScaffold.Yaml.Token.Scalar

/-!
# Reading tags, directives and names
-/

namespace ToolScaffold.Yaml

/-! ## Tags -/

/-- The handle of a tag, from its exclamation mark on: word characters and a second mark. In a
directive the second mark may be missing only if nothing stands between. -/
def tagHandle (inDirective : Bool) (cs : List Char) : Option (List Char × List Char) :=
  match cs with
  | '!' :: cs =>
    let name := cs.takeWhile isWord
    match cs.dropWhile isWord with
    | '!' :: rest => some ('!' :: name ++ ['!'], rest)
    | rest => if inDirective && !name.isEmpty then none else some ('!' :: name, rest)
  | _ => none

/-- The characters of the text of a tag. Commas and brackets count only in a delimited one. -/
def isTagChar (delimited : Bool) (c : Char) : Bool :=
  isWord c || ";/?:@&=+$.!~*'()".toList.contains c || (delimited && ",[]".toList.contains c)

/-- A byte written as a percent sign and two hexadecimal digits. -/
def escapedByte : List Char → Option (Nat × List Char)
  | '%' :: a :: b :: rest => do return ((← hexValue? a) * 16 + (← hexValue? b), rest)
  | _ => none

/-- How many bytes a character takes that begins with the byte, and the bits that the byte adds. -/
def leadingByte (n : Nat) : Option (Nat × Nat) :=
  if n < 0x80 then some (1, n)
  else if 0xC0 ≤ n ∧ n < 0xE0 then some (2, n - 0xC0)
  else if 0xE0 ≤ n ∧ n < 0xF0 then some (3, n - 0xE0)
  else if 0xF0 ≤ n ∧ n < 0xF8 then some (4, n - 0xF0)
  else none

/-- The bytes that go on with a character. -/
def followingBytes : Nat → Nat → List Char → Option (Nat × List Char)
  | 0, n, cs => some (n, cs)
  | k + 1, n, cs => do
    let (b, cs) ← escapedByte cs
    if b < 0x80 ∨ 0xC0 ≤ b then none
    followingBytes k (n * 64 + (b - 0x80)) cs

/-- A character written as the escapes of its bytes. -/
def escapedChar (cs : List Char) : Option (Char × List Char) := do
  let (b, cs) ← escapedByte cs
  let (width, n) ← leadingByte b
  let (n, cs) ← followingBytes (width - 1) n cs
  return (Char.ofNat n, cs)

/-- The text of a tag. `fuel` bounds the number of its characters. -/
def tagChars (delimited : Bool) : Nat → List Char → Option (List Char × List Char)
  | 0, cs => some ([], cs)
  | _ + 1, [] => some ([], [])
  | fuel + 1, c :: cs =>
    if c = '%' then do
      let (d, cs) ← escapedChar (c :: cs)
      let (text, left) ← tagChars delimited fuel cs
      return (d :: text, left)
    else if isTagChar delimited c then do
      let (text, left) ← tagChars delimited fuel cs
      return (c :: text, left)
    else some ([], c :: cs)

def tagText (delimited : Bool) (cs : List Char) : Option (List Char × List Char) := do
  let (text, left) ← tagChars delimited cs.length cs
  if text.isEmpty then none
  return (text, left)

/-- A tag from its exclamation mark on: an address between angle brackets, a suffix to a named
handle, or a suffix to the mark itself. The mark alone is a tag with no handle. -/
def tag (inFlow : Bool) (cs : List Char) : Option (Token × List Char) := do
  let (handle, suffix, left) ←
    match cs with
    | '!' :: '<' :: cs => do
      let (text, left) ← tagText true cs
      if left.head? ≠ some '>' then none
      pure ([], text, left.drop 1)
    | _ => do
      let (handle, cs) ← tagHandle false cs
      if 1 < handle.length ∧ handle.getLast? = some '!' then
        let (text, left) ← tagText false cs
        pure (handle, text, left)
      else
        let (text, left) ← tagChars false cs.length cs
        let suffix := handle.drop 1 ++ text
        pure (if suffix.isEmpty then ([], ['!'], left) else (['!'], suffix, left))
  if !((inFlow && left.head? = some ',') || endsOr isBlankOrBreak left) then none
  return (.tag (String.ofList handle) (String.ofList suffix), left)

/-! ## Directives -/

/-- Skips blanks and a comment to the end of the line. -/
def restOfLine (cs : List Char) : Option (List Char) :=
  let cs := cs.dropWhile isBlank
  let cs := if cs.head? = some '#' then cs.dropWhile (!isBreak ·) else cs
  if endsOr isBreak cs then some (takeBreak cs).2 else none

/-- A number of at most nine digits. -/
def versionNumber (cs : List Char) : Option (Nat × List Char) :=
  let digits := cs.takeWhile Char.isDigit
  if digits.isEmpty ∨ 9 < digits.length then none
  else some (digits.foldl (fun n c => n * 10 + (c.toNat - '0'.toNat)) 0, cs.dropWhile Char.isDigit)

/-- A directive from its percent sign on: the version of the language, or what a tag handle stands
for. -/
def directive (cs : List Char) : Option (Token × List Char) := do
  let cs := cs.drop 1
  let name := cs.takeWhile isWord
  let cs := cs.dropWhile isWord
  if name.isEmpty || !endsOr isBlankOrBreak cs then none
  let cs := cs.dropWhile isBlank
  if name = "YAML".toList then
    let (major, cs) ← versionNumber cs
    if cs.head? ≠ some '.' then none
    let (minor, cs) ← versionNumber (cs.drop 1)
    return (.version major minor, ← restOfLine cs)
  else if name = "TAG".toList then
    let (handle, cs) ← tagHandle true cs
    if !cs.head?.any isBlank then none
    let (expansion, cs) ← tagText true (cs.dropWhile isBlank)
    if !endsOr isBlankOrBreak cs then none
    return (.tagDirective (String.ofList handle) (String.ofList expansion), ← restOfLine cs)
  else none

/-! ## Names -/

/-- The name of an anchor or an alias, after its sign. -/
def anchorName (cs : List Char) : Option (String × List Char) :=
  let name := cs.takeWhile isWord
  let left := cs.dropWhile isWord
  if name.isEmpty ||
      !endsOr (fun c => isBlankOrBreak c || "?:,]\x7d%@\x60".toList.contains c) left then none
  else some (String.ofList name, left)

end ToolScaffold.Yaml
