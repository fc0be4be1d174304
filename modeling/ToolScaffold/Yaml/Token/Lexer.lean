import ToolScaffold.Yaml.Token.Tag

/-!
# Tokens of a text

Splits a YAML text into tokens. A mapping key is known for one only when the colon after it is
reached; until then it is a *candidate*, and its tokens stand in the list already. A candidate lasts
to the end of its line and for at most 1024 characters.
-/

namespace ToolScaffold.Yaml

/-- The start of what may turn out to be a mapping key. -/
structure Candidate where
  /-- Whether nothing but a key can stand here, as its column is that of a block mapping. -/
  required : Bool
  /-- How many tokens stand before it. -/
  order : Nat
  place : Position

/-- The state of a lexer between two tokens. -/
structure Lexer where
  rest : List Char
  place : Position
  /-- The column of the innermost open block collection, `-1` outside of all. -/
  indent : Int
  /-- The columns of the block collections around it. -/
  outer : List Int
  /-- Whether a mapping key may start here. -/
  keyAllowed : Bool
  /-- The candidate at the innermost level of brackets. -/
  candidate : Option Candidate
  /-- The candidates of the levels around it. -/
  suspended : List (Option Candidate)
  tokens : Array Token

namespace Lexer

def ofText (text : List Char) : Lexer where
  rest := text
  place := ⟨0, 0, 0⟩
  indent := -1
  outer := []
  keyAllowed := true
  candidate := none
  suspended := []
  tokens := #[]

def inFlow (s : Lexer) : Bool := !s.suspended.isEmpty

def emit (s : Lexer) (t : Token) : Lexer := { s with tokens := s.tokens.push t }

/-- Moves on to a later part of the text. -/
def moveTo (s : Lexer) (left : List Char) : Lexer :=
  { s with
    rest := left
    place := s.place.after (s.rest.take (s.rest.length - left.length)) }

def skip (s : Lexer) (n : Nat) : Lexer := s.moveTo (s.rest.drop n)

def allowKey (s : Lexer) (allowed : Bool) : Lexer := { s with keyAllowed := allowed }

/-! ## Candidates -/

/-- Gives up the candidate, which must not be a required one. -/
def dropCandidate (s : Lexer) : Option Lexer :=
  match s.candidate with
  | some c => if c.required then none else some { s with candidate := none }
  | none => some s

/-- Whether the text has moved on too far for the candidate. -/
def isStale (s : Lexer) (c : Candidate) : Bool :=
  c.place.line < s.place.line || c.place.index + 1024 < s.place.index

/-- A candidate, unless the text has moved on too far for it. A required one must not get there. -/
def held (s : Lexer) (candidate : Option Candidate) : Option (Option Candidate) :=
  match candidate with
  | some c => if s.isStale c then if c.required then none else some none else some (some c)
  | none => some none

/-- Gives up every candidate that the text has moved on too far for. -/
def dropStale (s : Lexer) : Option Lexer := do
  let candidate ← s.held s.candidate
  let suspended ← s.suspended.mapM s.held
  return { s with candidate, suspended }

/-- Makes what starts here the candidate, if a key may start here. -/
def saveCandidate (s : Lexer) : Option Lexer :=
  if s.keyAllowed then do
    let s ← s.dropCandidate
    let required := !s.inFlow && s.indent == s.place.column
    return { s with candidate := some ⟨required, s.tokens.size, s.place⟩ }
  else some s

/-! ## Indentation -/

/-- Opens a block collection at a column that is right of the innermost one. Its token goes to the
given place among the tokens. -/
def openBlock (s : Lexer) (start : Token) (column order : Nat) : Lexer :=
  if !s.inFlow && decide (s.indent < column) then
    { s with
      outer := s.indent :: s.outer
      indent := column
      tokens := s.tokens.insertIdxIfInBounds order start }
  else s

/-- Of the columns of open block collections, the innermost first, those that are not right of
`column`, and the number of the others. -/
def closing (column : Int) : Int → List Int → (Int × List Int) × Nat
  | indent, next :: outer =>
    if column < indent then
      let (left, n) := closing column next outer
      (left, n + 1)
    else ((indent, next :: outer), 0)
  | indent, [] => ((indent, []), 0)

/-- Closes the block collections that are right of a column. -/
def closeBlocks (s : Lexer) (column : Int) : Lexer :=
  if s.inFlow then s
  else
    let ((indent, outer), n) := closing column s.indent s.outer
    { s with indent, outer, tokens := s.tokens ++ Array.replicate n Token.blockEnd }

/-! ## Between tokens -/

/-- The text after blanks and a comment. Where a key may start, tabs are no blanks. -/
def afterBlanks (s : Lexer) : List Char :=
  let next := s.rest.dropWhile fun c => c = ' ' || (c = '\t' && (s.inFlow || !s.keyAllowed))
  if next.head? = some '#' then next.dropWhile (!isBreak ·) else next

theorem afterBlanks_length_le (s : Lexer) : s.afterBlanks.length ≤ s.rest.length := by
  unfold afterBlanks
  dsimp only
  split
  · exact Nat.le_trans (dropWhile_length_le _ _) (dropWhile_length_le _ _)
  · exact dropWhile_length_le _ _

/-- Skips blanks, comments and line breaks. Outside of brackets a key may start in a new line. -/
def skipGap (s : Lexer) : Lexer :=
  match _hn : s.afterBlanks with
  | [] => s.moveTo []
  | c :: left =>
    if _hb : isBreak c then
      skipGap ((s.moveTo (takeBreak (c :: left)).2).allowKey (s.keyAllowed || !s.inFlow))
    else s.moveTo (c :: left)
termination_by s.rest.length
decreasing_by
  have h1 := afterBlanks_length_le s
  rw [_hn] at h1
  have h2 := takeBreak_length_lt left _hb
  simp only [allowKey, moveTo]
  omega

/-! ## Reading one token -/

/-- Reads a token that gives up the candidate, of a number of characters. -/
def sign (s : Lexer) (t : Token) (width : Nat) (thenKey : Bool) : Option Lexer := do
  return (((← s.dropCandidate).allowKey thenKey).skip width).emit t

def flowStart (s : Lexer) (t : Token) : Option Lexer := do
  let s ← s.saveCandidate
  let s := { s with suspended := s.candidate :: s.suspended, candidate := none }
  return ((s.allowKey true).skip 1).emit t

def flowEnd (s : Lexer) (t : Token) : Option Lexer := do
  let s ← s.dropCandidate
  let s :=
    match s.suspended with
    | outer :: suspended => { s with candidate := outer, suspended }
    | [] => s
  return ((s.allowKey false).skip 1).emit t

/-- An item of a block sequence. Between brackets it is left to the parser to refuse it. -/
def blockEntry (s : Lexer) : Option Lexer :=
  if s.inFlow then s.sign .blockEntry 1 true
  else if s.keyAllowed then
    (s.openBlock .blockSequenceStart s.place.column s.tokens.size).sign .blockEntry 1 true
  else none

/-- The question mark before a key. -/
def markedKey (s : Lexer) : Option Lexer :=
  if s.inFlow then s.sign .key 1 false
  else if s.keyAllowed then
    (s.openBlock .blockMappingStart s.place.column s.tokens.size).sign .key 1 true
  else none

/-- The colon before a value. If there is a candidate, it is the key. -/
def value (s : Lexer) : Option Lexer :=
  match s.candidate with
  | some c =>
    let s := { s with tokens := s.tokens.insertIdxIfInBounds c.order .key, candidate := none }
    let s := s.openBlock .blockMappingStart c.place.column c.order
    some (((s.allowKey false).skip 1).emit .value)
  | none =>
    if s.inFlow then some (((s.allowKey false).skip 1).emit .value)
    else if s.keyAllowed then
      let s := s.openBlock .blockMappingStart s.place.column s.tokens.size
      some (((s.allowKey true).skip 1).emit .value)
    else none

/-- Reads a token that may be a part of a key. -/
def content (s : Lexer) (read : Option (Token × List Char)) : Option Lexer := do
  let s ← s.saveCandidate
  let (t, left) ← read
  return ((s.allowKey false).moveTo left).emit t

def quotedScalar (s : Lexer) (read : List Char → Option (List Char × List Char)) : Option Lexer :=
  s.content do
    let (text, left) ← read (s.rest.drop 1)
    return (.scalar false (String.ofList text), left)

def blockScalar (s : Lexer) (isFolded : Bool) : Option Lexer := do
  let s ← s.dropCandidate
  let (text, left) ← block isFolded s.indent (s.rest.drop 1)
  return ((s.allowKey true).moveTo left).emit (.scalar false (String.ofList text))

def plainScalar (s : Lexer) : Option Lexer := do
  let s ← s.saveCandidate
  let p ← plain s.inFlow (s.indent + 1).toNat s.place.column [] s.rest
  return ((s.allowKey p.leftLine).moveTo p.left).emit (.scalar true (String.ofList p.text))

/-- Whether a plain scalar starts with the character, given the text after it. -/
def startsPlain (inFlow : Bool) (c : Char) (rest : List Char) : Bool :=
  if c = '-' then !rest.head?.any isBlank
  else if c = '?' ∨ c = ':' then !inFlow && !endsOr isBlankOrBreak rest
  else !("?:,[]\x7b\x7d#&*!|>'\"%@\x60".toList.contains c || isBlankOrBreak c)

/-- Reads the token that starts with the character. -/
def token (s : Lexer) (c : Char) (rest : List Char) : Option Lexer :=
  let atStart := s.place.column = 0
  let spaced := endsOr isBlankOrBreak rest
  if atStart ∧ c = '%' then do
    let s ← (s.closeBlocks (-1)).dropCandidate
    let (t, left) ← directive s.rest
    return ((s.allowKey false).moveTo left).emit t
  else if atStart ∧ isMarker '-' s.rest then (s.closeBlocks (-1)).sign .documentStart 3 false
  else if atStart ∧ isMarker '.' s.rest then (s.closeBlocks (-1)).sign .documentEnd 3 false
  else if c = '[' then s.flowStart .flowSequenceStart
  else if c = '\x7b' then s.flowStart .flowMappingStart
  else if c = ']' then s.flowEnd .flowSequenceEnd
  else if c = '\x7d' then s.flowEnd .flowMappingEnd
  else if c = ',' then s.sign .flowEntry 1 true
  else if c = '-' ∧ spaced then s.blockEntry
  else if c = '?' ∧ (s.inFlow ∨ spaced) then s.markedKey
  else if c = ':' ∧ (s.inFlow ∨ spaced) then s.value
  else if c = '*' then s.content do
    let (name, left) ← anchorName rest
    return (.alias name, left)
  else if c = '&' then s.content do
    let (name, left) ← anchorName rest
    return (.anchor name, left)
  else if c = '!' then s.content (tag s.inFlow s.rest)
  else if c = '|' ∧ !s.inFlow then s.blockScalar false
  else if c = '>' ∧ !s.inFlow then s.blockScalar true
  else if c = '\'' then s.quotedScalar singleQuoted
  else if c = '"' then s.quotedScalar doubleQuoted
  else if startsPlain s.inFlow c rest then s.plainScalar
  else none

/-- Ends the text, which closes all block collections. -/
def finish (s : Lexer) : Option (List Token) := do
  return (← (s.closeBlocks (-1)).dropCandidate).tokens.toList

def run (s : Lexer) : Option (List Token) :=
  match s.skipGap.dropStale with
  | none => none
  | some t =>
    match t.rest with
    | [] => t.finish
    | c :: rest =>
      match (t.closeBlocks t.place.column).token c rest with
      | none => none
      -- every token moves on in the text
      | some next => if _h : next.rest.length < s.rest.length then run next else none
termination_by s.rest.length

end Lexer

/-- The tokens of a text, if it can be split into tokens. A byte order mark at its start takes the
first column. -/
def Token.ofText? (text : String) : Option (List Token) :=
  let cs := text.toList
  let s := Lexer.ofText cs
  if !cs.all isAllowed then none
  else if cs.head? = some byteOrderMark then (s.skip 1).run
  else s.run

end ToolScaffold.Yaml
