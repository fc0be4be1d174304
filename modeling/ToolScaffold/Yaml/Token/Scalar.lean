import ToolScaffold.Yaml.Chars

/-!
# Reading scalars

The four ways to write a scalar: between single or double quotes, plain, and as a block. Each reader
returns the scalar's text and what is left, or nothing if the scalar is malformed.
-/

namespace ToolScaffold.Yaml

/-- Whether the line is at its start after a gap. -/
def endsLine (gap : List Char) : Bool :=
  match gap.getLast? with
  | some c => isBreak c
  | none => false

theorem dropWhile_length_le (p : Char → Bool) (cs : List Char) :
    (cs.dropWhile p).length ≤ cs.length := (List.dropWhile_sublist p).length_le

theorem takeBreak_length_le (cs : List Char) : (takeBreak cs).2.length ≤ cs.length := by
  unfold takeBreak
  split
  · simp only [List.length_cons]
    omega
  · split
    · simp
    · simp
  · simp

theorem takeBreak_length_lt {c : Char} (rest : List Char) (hc : isBreak c = true) :
    (takeBreak (c :: rest)).2.length < (c :: rest).length := by
  unfold takeBreak
  split
  · rename_i heq
    cases heq
    simp only [List.length_cons]
    omega
  · rename_i heq
    cases heq
    simp [hc]
  · simp_all

/-! ## Quoted scalars -/

/-- A scalar between single quotes, after the opening one. Two quotes stand for one. -/
def singleQuoted (cs : List Char) : Option (List Char × List Char) :=
  match cs with
  | [] => none
  | '\'' :: '\'' :: rest => do
    let (text, left) ← singleQuoted rest
    return ('\'' :: text, left)
  | c :: rest =>
    if c = '\'' then some ([], rest)
    else if isBlankOrBreak c then
      let gap := c :: rest.takeWhile isBlankOrBreak
      let next := rest.dropWhile isBlankOrBreak
      if endsLine gap ∧ isAnyMarker next then none
      else do
        let (text, left) ← singleQuoted next
        return (folded gap ++ text, left)
    else do
      let (text, left) ← singleQuoted rest
      return (c :: text, left)
termination_by cs.length
decreasing_by
  · simp only [List.length_cons]
    omega
  · have := dropWhile_length_le isBlankOrBreak rest
    simp only [List.length_cons]
    omega
  · simp

/-- What an escape of one letter stands for. -/
def simpleEscape? (c : Char) : Option Char :=
  match c with
  | '0' => some '\x00'
  | 'a' => some '\x07'
  | 'b' => some '\x08'
  | 't' => some '\t'
  | '\t' => some '\t'
  | 'n' => some '\n'
  | 'v' => some '\x0b'
  | 'f' => some '\x0c'
  | 'r' => some '\r'
  | 'e' => some '\x1b'
  | ' ' => some ' '
  | '"' => some '"'
  | '/' => some '/'
  | '\\' => some '\\'
  | 'N' => some nextLine
  | '_' => some (Char.ofNat 0xA0)
  | 'L' => some (Char.ofNat 0x2028)
  | 'P' => some (Char.ofNat 0x2029)
  | _ => none

/-- How many hexadecimal digits follow the letter of an escape by number. -/
def escapeWidth? (c : Char) : Option Nat :=
  match c with
  | 'x' => some 2
  | 'u' => some 4
  | 'U' => some 8
  | _ => none

def hexValue? (c : Char) : Option Nat :=
  if '0' ≤ c ∧ c ≤ '9' then some (c.toNat - '0'.toNat)
  else if 'a' ≤ c ∧ c ≤ 'f' then some (c.toNat - 'a'.toNat + 10)
  else if 'A' ≤ c ∧ c ≤ 'F' then some (c.toNat - 'A'.toNat + 10)
  else none

def hexNumber? (digits : List Char) : Option Nat :=
  digits.foldlM (fun n c => do return n * 16 + (← hexValue? c)) 0

/-- The character with the number, unless it is a surrogate or no character at all. -/
def charOfNumber? (n : Nat) : Option Char :=
  if (0xD800 ≤ n ∧ n ≤ 0xDFFF) ∨ 0x10FFFF < n then none else some (Char.ofNat n)

def numberedChar? (width : Nat) (cs : List Char) : Option Char :=
  if cs.length < width then none else do charOfNumber? (← hexNumber? (cs.take width))

/-- A scalar between double quotes, after the opening one. -/
def doubleQuoted (cs : List Char) : Option (List Char × List Char) :=
  match cs with
  | [] => none
  | '\\' :: c :: rest =>
    if isBreak c then
      -- an escaped line break: the lines are joined without a space
      let next := (takeBreak (c :: rest)).2
      let gap := next.takeWhile isBlankOrBreak
      let after := next.dropWhile isBlankOrBreak
      if (gap.isEmpty ∨ endsLine gap) ∧ isAnyMarker after then none
      else do
        let (text, left) ← doubleQuoted after
        return (lineBreaks gap ++ text, left)
    else
      match simpleEscape? c with
      | some d => do
        let (text, left) ← doubleQuoted rest
        return (d :: text, left)
      | none => do
        let width ← escapeWidth? c
        let d ← numberedChar? width rest
        let (text, left) ← doubleQuoted (rest.drop width)
        return (d :: text, left)
  | c :: rest =>
    if c = '"' then some ([], rest)
    else if c = '\\' then none
    else if isBlankOrBreak c then
      let gap := c :: rest.takeWhile isBlankOrBreak
      let next := rest.dropWhile isBlankOrBreak
      if endsLine gap ∧ isAnyMarker next then none
      else do
        let (text, left) ← doubleQuoted next
        return (folded gap ++ text, left)
    else do
      let (text, left) ← doubleQuoted rest
      return (c :: text, left)
termination_by cs.length
decreasing_by
  · have h1 := dropWhile_length_le isBlankOrBreak (takeBreak (c :: rest)).2
    have h2 := takeBreak_length_le (c :: rest)
    simp only [List.length_cons] at *
    omega
  · simp only [List.length_cons]
    omega
  · simp only [List.length_cons, List.length_drop]
    omega
  · have := dropWhile_length_le isBlankOrBreak rest
    simp only [List.length_cons]
    omega
  · simp

/-! ## Plain scalars -/

/-- A plain scalar, what is left after it, and whether the line was left on the way there. -/
structure Plain where
  text : List Char
  left : List Char
  leftLine : Bool

/-- Whether a gap indents a line by a tab where spaces are due. -/
def hasTabIndent (indent : Nat) : (column : Option Nat) → List Char → Bool
  | _, [] => false
  | column, c :: rest =>
    if isBreak c then hasTabIndent indent (some 0) rest
    else
      match column with
      | none => hasTabIndent indent none rest
      | some n => (c = '\t' && decide (n < indent)) || hasTabIndent indent (some (n + 1)) rest

/-- The column after a gap that starts at the given column. -/
def columnAfter (column : Nat) (gap : List Char) : Nat := (Position.after ⟨0, 0, column⟩ gap).column

/-- The signs that end a plain scalar inside of brackets. -/
def isFlowSign (c : Char) : Bool := c = ',' || c = '[' || c = ']' || c = '\x7b' || c = '\x7d'

/-- Reads a plain scalar. `gap` is what stands between the text read before and here; the text goes
on only if it is not at a comment, a marker, or left of the indentation. -/
def plain (inFlow : Bool) (indent column : Nat) (gap : List Char) (cs : List Char) :
    Option Plain :=
  match cs with
  | [] => some ⟨[], [], !(lineBreaks gap).isEmpty⟩
  | c :: rest =>
    let stop : Option Plain := some ⟨[], c :: rest, !(lineBreaks gap).isEmpty⟩
    if isBlankOrBreak c then
      let gap := c :: rest.takeWhile isBlankOrBreak
      let next := rest.dropWhile isBlankOrBreak
      let column := columnAfter column gap
      if hasTabIndent indent none gap then none
      else if (!inFlow && decide (column < indent)) || (column = 0 && isAnyMarker next) ||
          next.head? = some '#' then
        some ⟨[], next, !(lineBreaks gap).isEmpty⟩
      else plain inFlow indent column gap next
    else if inFlow && c = ':' && endsOr (fun d => isFlowSign d || d = '?') rest && !rest.isEmpty then
      none
    else if (c = ':' && endsOr isBlankOrBreak rest) || (inFlow && isFlowSign c) then stop
    else do
      let more ← plain inFlow indent (column + 1) [] rest
      return { more with text := folded gap ++ c :: more.text }
termination_by cs.length
decreasing_by
  · have := dropWhile_length_le isBlankOrBreak rest
    simp only [List.length_cons]
    omega
  · simp

/-! ## Block scalars -/

/-- What to do with the line breaks at the end of a block scalar. -/
inductive Chomping where
  | strip
  | clip
  | keep
  deriving DecidableEq, Repr

/-- The signs after the mark of a block scalar: how to treat its end, and how far it is indented. -/
def blockSigns (cs : List Char) : Option (Chomping × Nat × List Char) :=
  let chomping? (c : Char) : Option Chomping :=
    if c = '+' then some .keep else if c = '-' then some .strip else none
  let digit (c : Char) : Nat := c.toNat - '0'.toNat
  match cs with
  | [] => some (.clip, 0, [])
  | c :: rest =>
    match chomping? c with
    | some chomping =>
      match rest with
      | d :: rest' =>
        if d.isDigit then if d = '0' then none else some (chomping, digit d, rest')
        else some (chomping, 0, rest)
      | [] => some (chomping, 0, [])
    | none =>
      if c.isDigit then
        if c = '0' then none
        else
          match rest with
          | d :: rest' =>
            match chomping? d with
            | some chomping => some (chomping, digit c, rest')
            | none => some (.clip, digit c, rest)
          | [] => some (.clip, digit c, [])
      else some (.clip, 0, c :: rest)

/-- The empty lines at the start of a stretch of lines: their line breaks, the widest indentation, the
column that the next line begins at, and the text from there. With an indentation of zero, which
means that it is yet unknown, all spaces count. -/
def emptyLines (indent widest : Nat) (cs : List Char) :
    Option (List Char × Nat × Nat × List Char) :=
  let spaces := cs.takeWhile (· = ' ')
  let column := if indent = 0 then spaces.length else min indent spaces.length
  let next := cs.drop column
  let widest := max widest column
  match _hn : next with
  | [] => some ([], widest, column, [])
  | c :: rest =>
    if c = '\t' ∧ (indent = 0 ∨ column < indent) then none
    else if _hb : isBreak c then do
      let (breaks, widest, column, left) ← emptyLines indent widest (takeBreak (c :: rest)).2
      return ((takeBreak (c :: rest)).1 ++ breaks, widest, column, left)
    else some ([], widest, column, next)
termination_by cs.length
decreasing_by
  have h1 : (c :: rest).length ≤ cs.length := by
    rw [← _hn, List.length_drop]
    omega
  have h2 := takeBreak_length_lt rest _hb
  omega

/-- The lines of a block scalar from a line that begins at `column`. `pending` is the line break
before it, `breaks` those of the empty lines before it, and `blankBefore` says whether the line
before those began with a blank. The result is the text, the pending line break and the empty lines
at the end, and what is left. -/
def blockLines (isFolded : Bool) (indent : Nat) (fuel : Nat) (pending breaks : List Char)
    (blankBefore : Bool) (column : Nat) (cs : List Char) :
    Option (List Char × List Char × List Char × List Char) :=
  match fuel with
  | 0 => none
  | fuel + 1 =>
    match cs with
    | [] => some ([], pending, breaks, [])
    | c :: rest =>
      if column ≠ indent then some ([], pending, breaks, c :: rest)
      else
        let blank := isBlank c
        let joint :=
          if isFolded ∧ pending = ['\n'] ∧ !blankBefore ∧ !blank then
            if breaks.isEmpty then [' '] else breaks
          else pending ++ breaks
        let line := (c :: rest).takeWhile (!isBreak ·)
        let (pending, next) := takeBreak ((c :: rest).dropWhile (!isBreak ·))
        do
          let (breaks, _, column, next) ← emptyLines indent 0 next
          let (text, pending, breaks, left) ←
            blockLines isFolded indent fuel pending breaks blank column next
          return (joint ++ line ++ text, pending, breaks, left)

/-- A block scalar, after its mark. `parent` is the indentation of what it stands in. -/
def block (isFolded : Bool) (parent : Int) (cs : List Char) : Option (List Char × List Char) := do
  let (chomping, increment, cs) ← blockSigns cs
  let cs := cs.dropWhile isBlank
  let cs := if cs.head? = some '#' then cs.dropWhile (!isBreak ·) else cs
  if !endsOr isBreak cs then none
  let cs := (takeBreak cs).2
  let given := if increment = 0 then 0 else ((max parent 0) + increment).toNat
  let (breaks, widest, column, cs) ← emptyLines given 0 cs
  let indent := if given = 0 then max (max widest (parent + 1).toNat) 1 else given
  let (text, pending, breaks, left) ←
    blockLines isFolded indent (cs.length + 1) [] breaks false column cs
  let ending :=
    match chomping with
    | .strip => []
    | .clip => pending
    | .keep => pending ++ breaks
  return (text ++ ending, left)

end ToolScaffold.Yaml
