import ToolScaffold.Template.Basic

/-!
# Reading templates

Values stand between double braces; `for`, `if`, `else` and their ends stand between a brace and a
percent sign. Such a tag on a line of its own leaves no trace of the line: the blanks before it and
the line break after it go. Comments stand between a brace and a number sign and go as well.
-/

namespace ToolScaffold.Template

/-! ## Segments -/

/-- A stretch of a template: plain text, or what stands in a tag. -/
inductive Segment where
  | text (chars : List Char)
  | output (inside : List Char)
  | block (inside : List Char)
  deriving DecidableEq, Repr

inductive TagKind where
  | output
  | block
  | comment
  deriving DecidableEq, Repr

/-- The character next to the braces of a tag. -/
def TagKind.mark : TagKind → Char
  | output => '\x7b'
  | block => '%'
  | comment => '#'

/-- The character before the closing brace of a tag. -/
def TagKind.endMark : TagKind → Char
  | output => '\x7d'
  | block => '%'
  | comment => '#'

/-- The kind of a tag that begins with a brace and this character. -/
def TagKind.ofMark? (c : Char) : Option TagKind :=
  if c = '\x7b' then some .output
  else if c = '%' then some .block
  else if c = '#' then some .comment
  else none

/-- Where in a template the scan is; texts are read backwards. -/
inductive Place where
  /-- In plain text; whether the text began at the start of a line. -/
  | text (read : List Char) (lineStart : Bool)
  | tag (kind : TagKind) (read : List Char)

def isIndent (c : Char) : Bool := c = ' ' || c = '\t'

/-- A text read backwards, without the blanks before a tag that begins its line. -/
def withoutIndent (read : List Char) (lineStart : Bool) : List Char :=
  match read.dropWhile isIndent with
  | [] => if lineStart then [] else read
  | c :: rest => if c = '\n' then c :: rest else read

/-- The plain text before a tag. -/
def textBefore (kind : TagKind) (read : List Char) (lineStart : Bool) : List Segment :=
  let kept := if kind = .output then read else withoutIndent read lineStart
  if kept.isEmpty then [] else [.text kept.reverse]

/-- What a tag leaves behind. -/
def tagSegments (kind : TagKind) (read : List Char) : List Segment :=
  match kind with
  | .output => [.output read.reverse]
  | .block => [.block read.reverse]
  | .comment => []

/-- The segments of a template; none if a tag is not closed. -/
def segmentsFrom : Place → List Char → Option (List Segment)
  | .text read _, [] => some (if read.isEmpty then [] else [.text read.reverse])
  | .tag _ _, [] => none
  | .text read lineStart, [c] => segmentsFrom (.text (c :: read) lineStart) []
  | .text read lineStart, c :: d :: rest =>
    match if c = '\x7b' then TagKind.ofMark? d else none with
    | some kind => do
      return textBefore kind read lineStart ++ (← segmentsFrom (.tag kind []) rest)
    | none => segmentsFrom (.text (c :: read) lineStart) (d :: rest)
  | .tag _ _, [_] => none
  | .tag kind read, c :: d :: rest =>
    if c = kind.endMark ∧ d = '\x7d' then
      match rest with
      | [] => some (tagSegments kind read)
      | e :: rest =>
        if kind ≠ .output ∧ e = '\n' then do
          return tagSegments kind read ++ (← segmentsFrom (.text [] true) rest)
        else do
          return tagSegments kind read ++ (← segmentsFrom (.text [] false) (e :: rest))
    else segmentsFrom (.tag kind (c :: read)) (d :: rest)

/-! ## Words of a tag -/

/-- A word or a sign inside of a tag. -/
inductive Token where
  | word (name : String)
  | dot
  | pipe
  deriving DecidableEq, Repr

def isWordStart (c : Char) : Bool := c.isAlpha || c = '_'

/-- The word read so far, backwards; one that begins with a digit is none. -/
def finishWord (read : List Char) : Option (List Token) :=
  match read.reverse with
  | [] => some []
  | c :: rest => if isWordStart c then some [.word (String.ofList (c :: rest))] else none

/-- The words and signs of a tag; none if another character occurs. -/
def tokensFrom (read : List Char) : List Char → Option (List Token)
  | [] => finishWord read
  | c :: rest =>
    if isWordStart c || c.isDigit then tokensFrom (c :: read) rest
    else do
      let before ← finishWord read
      let sign ←
        if c = '.' then some [Token.dot]
        else if c = '|' then some [Token.pipe]
        else if c.isWhitespace then some []
        else none
      return before ++ sign ++ (← tokensFrom [] rest)

def filtersOf : List Token → Option (List String)
  | [] => some []
  | .pipe :: .word name :: rest => do return name :: (← filtersOf rest)
  | _ => none

def attributesOf : List Token → Option (List String × List String)
  | .dot :: .word name :: rest => do
    let (attributes, filters) ← attributesOf rest
    return (name :: attributes, filters)
  | tokens => do return ([], ← filtersOf tokens)

/-- The words that cannot name a variable. -/
def keywords : List String := ["for", "in", "if", "else", "elif", "endfor", "endif", "and", "or",
  "not", "is"]

def exprOf : List Token → Option Expr
  | .word name :: rest =>
    if keywords.contains name then none
    else do
      let (attributes, filters) ← attributesOf rest
      return ⟨name, attributes, filters⟩
  | _ => none

/-! ## Nesting -/

/-- A part that is still open, with the finished parts before it. -/
inductive Frame where
  | forEach (before : List Node) (each : String) (items : Expr)
  | ifTrue (before : List Node) (condition : Expr)
  | orElse (before : List Node) (condition : Expr) (body : List Node)

/-- The state of the reading: open parts from the inside out, and the finished parts of the innermost
one. -/
abbrev Open := List Frame × List Node

/-- Takes in one block tag. -/
def enter (state : Open) : List Token → Option Open
  | [.word "endfor"] =>
    match state with
    | (.forEach before each items :: frames, body) =>
      some (frames, before ++ [.forEach each items body])
    | _ => none
  | [.word "endif"] =>
    match state with
    | (.ifTrue before condition :: frames, body) =>
      some (frames, before ++ [.ifTrue condition body []])
    | (.orElse before condition body :: frames, otherwise) =>
      some (frames, before ++ [.ifTrue condition body otherwise])
    | _ => none
  | [.word "else"] =>
    match state with
    | (.ifTrue before condition :: frames, body) => some (.orElse before condition body :: frames, [])
    | _ => none
  | .word "if" :: condition => do return (.ifTrue state.2 (← exprOf condition) :: state.1, [])
  | .word "for" :: .word name :: .word "in" :: items => do
    if keywords.contains name then none
    else return (.forEach state.2 name (← exprOf items) :: state.1, [])
  | _ => none

/-- Takes in the segments one after the other. -/
def nodesFrom (state : Open) : List Segment → Option (List Node)
  | [] => if state.1.isEmpty then some state.2 else none
  | .text chars :: rest => nodesFrom (state.1, state.2 ++ [.text chars]) rest
  | .output inside :: rest => do
    let e ← exprOf (← tokensFrom [] inside)
    nodesFrom (state.1, state.2 ++ [.output e]) rest
  | .block inside :: rest => do
    nodesFrom (← enter state (← tokensFrom [] inside)) rest

def parse (text : String) : Except Fault (List Node) :=
  match segmentsFrom (.text [] true) text.toList >>= nodesFrom ([], []) with
  | some nodes => .ok nodes
  | none => .error .badForm

end ToolScaffold.Template
