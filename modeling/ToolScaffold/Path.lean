/-!
# Paths

A path is a text whose parts are separated by slashes. Joining keeps both texts as they are, so what
is printed is what was given, and the directories above a path are written as they are in it. What
counts as a part is neither empty nor a dot, but for a dot in front.
-/

namespace ToolScaffold

structure Path where
  text : String
  deriving DecidableEq, Repr

namespace Path

/-- The parts of a text between slashes; a text without a slash has one. -/
def split : List Char → List (List Char)
  | [] => [[]]
  | c :: rest =>
    if c = '/' then [] :: split rest
    else
      match split rest with
      | [] => [[c]]
      | part :: parts => (c :: part) :: parts

def steps (p : Path) : List String := (split p.text.toList).map String.ofList

def isAbsolute (p : Path) : Bool := p.text.toList.head? = some '/'

/-- A path inside of a directory. An absolute path stays itself. -/
def join (p : Path) (name : String) : Path :=
  if (Path.mk name).isAbsolute ∨ p.text = "" then ⟨name⟩
  else if p.text.toList.getLast? = some '/' then ⟨p.text ++ name⟩
  else ⟨p.text ++ "/" ++ name⟩

/-- Whether a part counts: empty parts and dots do not. -/
def counts (part : String) : Bool := part ≠ "" && part ≠ "."

/-- The parts that count, and a dot in front of a relative path. -/
def components (p : Path) : List String :=
  match p.steps with
  | [] => []
  | first :: rest => (if first = "." ∨ counts first then [first] else []) ++ rest.filter counts

/-- The beginnings of a list of parts that end in one that counts, the longest first. -/
def fronts : List String → List (List String)
  | [] => []
  | part :: rest => (fronts rest).map (part :: ·) ++ if counts part then [[part]] else []

/-- The path of the given parts. -/
def ofSteps (steps : List String) : Path := ⟨"/".intercalate steps⟩

/-- The path up to its last part, and the directories above it, from the inside out. What stands
between the parts stays as it is; the working directory, and the directory above all, are left
out. -/
def ancestors (p : Path) : List Path :=
  match p.steps with
  | [] => []
  | first :: rest =>
    ((fronts rest).map (first :: ·) ++ if first = "" then [] else [[first]]).map ofSteps

/-- The directories above a path. -/
def above (p : Path) : List Path := p.ancestors.tail

/-- The part after the last dot of the name, if the name does not begin with that dot. -/
def extension? (p : Path) : Option String :=
  match p.components.getLast? with
  | none => none
  | some name =>
    let reversed := name.toList.reverse
    let rest := reversed.dropWhile (· ≠ '.')
    if name = ".." ∨ rest.length < 2 then none
    else some (String.ofList (reversed.takeWhile (· ≠ '.')).reverse)

end Path

end ToolScaffold
