import ToolScaffold.Json.Reader.Number
import ToolScaffold.Json.Reader.Text

/-!
# Reading JSON values

A value is read with an allowance of nesting levels: each list or object uses one up, and one that
finds none left is refused. Of a repeated key the first place and the last value count. A value that
is only passed over is held to the grammar but to no limit of depth or size.
-/

namespace ToolScaffold.Json

def maxDepth : Nat := 127

namespace Reader

/-- The rest of a literal word. -/
def word (letters : List Char) : Reader Unit := do
  for letter in letters do
    match ← peek with
    | none => fail .endInValue
    | some c => if c = letter then advance else failAtNext .notALiteral

/-- Anything but a list or an object, seen at its first character. -/
def scalar (first : Char) : Reader Json := do
  if first = 'n' then
    advance
    word ['u', 'l', 'l']
    return .null
  else if first = 't' then
    advance
    word ['r', 'u', 'e']
    return .bool true
  else if first = 'f' then
    advance
    word ['a', 'l', 's', 'e']
    return .bool false
  else if first = '-' then
    advance
    return .num (← number true)
  else if first.isDigit then
    return .num (← number false)
  else if first = '"' then
    advance
    return .str (← string)
  else failAtNext .notAValue

/-- The items of a list that is kept. -/
def listBrackets : Brackets where
  close := ']'
  ended := .endInList
  unseparated := .missingListComma
  beforeFirst := pure ()
  afterComma := do
    match ← peek with
    | none => failAtNext .endInValue
    | some c => if c = ']' then failAtNext .trailingComma

/-- The fields of an object that is kept. -/
def objectBrackets : Brackets where
  close := '\x7d'
  ended := .endInObject
  unseparated := .missingObjectComma
  beforeFirst := do
    if (← peek) ≠ some '"' then failAtNext .keyNotAString
  afterComma := do
    match ← peek with
    | none => failAtNext .endInValue
    | some c =>
      if c = '\x7d' then failAtNext .trailingComma
      else if c ≠ '"' then failAtNext .keyNotAString

/-- The colon after a key. -/
def colon : Reader Unit := do
  match ← next with
  | none => failAtNext .endInObject
  | some c => if c = ':' then advance else failAtNext .missingColon

/-- A key, seen at its quotation mark, and the colon after it. -/
def key : Reader String := do
  advance
  let name ← string
  colon
  return name

/-- Reads a list, seen at its bracket, whose items are read by `item`. -/
def list (item : Reader Json) : Reader Json := do
  advance
  let items ← listBrackets.items (fun (acc : Array Json) => do return acc.push (← item)) #[]
  return .arr items.toList

/-- Reads an object, seen at its bracket, whose values are read by `item`. -/
def object (item : Reader Json) : Reader Json := do
  advance
  let fields ← objectBrackets.items (fun (fields : Fields) => do
    let name ← key
    return Entries.insert name (← item) fields) []
  return .obj fields

/-- Reads any value that nests no deeper than the allowance. -/
def value : (levels : Nat) → Reader Json
  | 0 => do
    match ← next with
    | none => failAtNext .endInValue
    | some c => if c = '[' ∨ c = '\x7b' then failAtNext .tooDeep else scalar c
  | levels + 1 => do
    match ← next with
    | none => failAtNext .endInValue
    | some c =>
      if c = '[' then list (value levels)
      else if c = '\x7b' then object (value levels)
      else scalar c

/-! ## Passing over a value -/

def skippedList : Brackets :=
  { listBrackets with beforeFirst := pure (), afterComma := pure () }

def skippedObject : Brackets :=
  let check : Reader Unit := do
    match ← peek with
    | none => failAtNext .endInObject
    | some c => if c ≠ '"' then failAtNext .keyNotAString
  { objectBrackets with beforeFirst := check, afterComma := check }

/-- Anything but a list or an object, seen at its first character and passed over. -/
def skipScalar (first : Char) : Reader Unit := do
  if first = '-' then
    advance
    skipNumber
  else if first.isDigit then skipNumber
  else if first = '"' then
    advance
    skipString
  else
    let _ ← scalar first

/-- Passes over a value that nests no deeper than the allowance. -/
def skipWithin : (levels : Nat) → Reader Unit
  | 0 => failAtNext .endInValue
  | levels + 1 => do
    match ← next with
    | none => failAtNext .endInValue
    | some c =>
      if c = '[' then
        advance
        skippedList.items (fun _ => skipWithin levels) ()
      else if c = '\x7b' then
        advance
        skippedObject.items (fun _ => do
          advance
          skipString
          colon
          skipWithin levels) ()
      else skipScalar c

/-- Passes over a value. A text nests no deeper than it has characters, so the allowance that is
made of its length is never used up before the text is. -/
def skip : Reader Unit where
  run s := (skipWithin (s.length + 1)).run s
  shrinks h := (skipWithin _).shrinks h

/-- Reads a whole text: nothing but blanks may follow the value. -/
def runWhole {α : Type} (x : Reader α) (text : String) : Except ReadError α :=
  let whole : Reader α := do
    let a ← x
    match ← next with
    | none => return a
    | some _ => failAtNext .trailingCharacters
  match whole.run text.toList with
  | .ok (a, _) => .ok a
  | .error failure => .error (.ofFailure text.toList failure)

end Reader

def read (text : String) : Except ReadError Json := (Reader.value maxDepth).runWhole text

end ToolScaffold.Json
