import ToolScaffold.Distinct

/-!
# Address templates

An address with placeholders, which are filled in when a tool is called. A placeholder is a name in
braces that is not empty and holds no brace.
-/

namespace ToolScaffold

/-- A part of a template: a character that stands for itself, or a placeholder. -/
inductive Piece where
  | char (c : Char)
  | placeholder (name : List Char)
  deriving DecidableEq, Repr

namespace Piece

/-- The text that the part is written as. -/
def chars : Piece → List Char
  | char c => [c]
  | placeholder name => '\x7b' :: name ++ ['\x7d']

def name? : Piece → Option (List Char)
  | char _ => none
  | placeholder name => some name

/-- The parts of a text. `opened` is what follows the last opening brace, read backwards, if no
brace has come since. -/
def scan (opened : Option (List Char)) : List Char → List Piece
  | [] => unfinished opened
  | c :: rest =>
    if c = '\x7b' then unfinished opened ++ scan (some []) rest
    else
      match opened with
      | none => char c :: scan none rest
      | some name =>
        if c ≠ '\x7d' then scan (some (c :: name)) rest
        else if name.isEmpty then unfinished opened ++ char c :: scan none rest
        else placeholder name.reverse :: scan none rest
where
  /-- An opening brace without its placeholder, and what follows it. -/
  unfinished : Option (List Char) → List Piece
    | none => []
    | some name => char '\x7b' :: name.reverse.map char

def ofChars (cs : List Char) : List Piece := scan none cs

end Piece

structure UrlTemplate where
  text : String
  /-- The names of the placeholders, each at its first appearance. -/
  placeholders : List String
  deriving DecidableEq, Repr

namespace UrlTemplate

/-- Finds the placeholders of an address. -/
def parse (text : String) : UrlTemplate :=
  ⟨text, distinct (((Piece.ofChars text.toList).filterMap Piece.name?).map String.ofList)⟩

/-- The placeholders that name a parameter. -/
def bound (template : UrlTemplate) (params : List String) : List String :=
  template.placeholders.filter fun name => params.contains name

/-- The placeholders that name no parameter. -/
def unbound (template : UrlTemplate) (params : List String) : List String :=
  template.placeholders.filter fun name => !params.contains name

end UrlTemplate

end ToolScaffold
