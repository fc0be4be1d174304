import ToolScaffold.Json.Printer
import ToolScaffold.Text.Quoted

/-!
# Templates

A template is text with holes: values of variables, passed through filters; parts that are repeated
for each item of a list; and parts that appear only under a condition. Rendering looks variables up
in a context. A variable without a value prints as nothing, counts as false and has no items.
-/

namespace ToolScaffold.Template

/-- A variable, the attributes taken of it, and the filters that it passes through. -/
structure Expr where
  name : String
  attributes : List String
  filters : List String
  deriving DecidableEq, Repr

inductive Node where
  | text (chars : List Char)
  | output (e : Expr)
  | forEach (each : String) (items : Expr) (body : List Node)
  | ifTrue (condition : Expr) (body otherwise : List Node)

inductive Fault where
  | badForm
  | unknownTemplate (name : String)
  | unknownFilter (name : String)
  | notAText
  | noAttributes
  | noItems
  deriving DecidableEq, Repr

/-- A value, or none for a variable without one. -/
abbrev Value := Option Json

/-- The named functions on texts that an expression may apply. -/
abbrev Filters := List (String × (String → String))

/-! ## How values are shown -/

/-- A double with all its digits before the point. -/
def positional (x : Float) : List Char :=
  let bits := x.toBits
  let sign := if bits.toNat >>> 63 = 1 then ['-'] else []
  if bits.toNat % 0x8000000000000000 = 0 then sign ++ ['0', '.', '0']
  else
    let d := (Binary.ofBits bits).shortest
    let digits := Json.natChars d.digits
    let whole : Int := digits.length + d.exponent
    sign ++
      if 0 ≤ d.exponent then digits ++ List.replicate d.exponent.toNat '0' ++ ['.', '0']
      else if 0 < whole then digits.take whole.toNat ++ '.' :: digits.drop whole.toNat
      else '0' :: '.' :: List.replicate (-whole).toNat '0' ++ digits

mutual

/-- A value inside of a list or an object. -/
def inner : Json → List Char
  | .null => ['n', 'o', 'n', 'e']
  | .bool true => ['t', 'r', 'u', 'e']
  | .bool false => ['f', 'a', 'l', 's', 'e']
  | .num (.int n) => Json.intChars n
  | .num (.float x) => positional x
  | .str s => (Text.quoted s).toList
  | .arr [] => ['[', ']']
  | .arr (item :: rest) => '[' :: inner item ++ innerItems rest ++ [']']
  | .obj [] => ['\x7b', '\x7d']
  | .obj ((key, v) :: rest) =>
    '\x7b' :: (Text.quoted key).toList ++ ':' :: ' ' :: inner v ++ innerFields rest ++ ['\x7d']

/-- The items after the first. -/
def innerItems : List Json → List Char
  | [] => []
  | item :: rest => ',' :: ' ' :: inner item ++ innerItems rest

/-- The fields after the first. -/
def innerFields : List (String × Json) → List Char
  | [] => []
  | (key, v) :: rest =>
    ',' :: ' ' :: (Text.quoted key).toList ++ ':' :: ' ' :: inner v ++ innerFields rest

end

/-- A value as it is printed: a text as it is, and nothing for no value. -/
def shown : Value → List Char
  | none => []
  | some (.str s) => s.toList
  | some v => inner v

/-- Whether a condition holds. -/
def truthy : Value → Bool
  | none => false
  | some .null => false
  | some (.bool b) => b
  | some (.num (.int n)) => n ≠ 0
  | some (.num (.float x)) => x != 0.0
  | some (.str s) => s ≠ ""
  | some (.arr items) => !items.isEmpty
  | some (.obj fields) => !fields.isEmpty

/-- The items that a part is repeated for: those of a list, the keys of an object, the characters of
a text. -/
def itemsOf : Value → Except Fault (List Json)
  | none => .ok []
  | some .null => .ok []
  | some (.arr items) => .ok items
  | some (.obj fields) => .ok (fields.map fun field => .str field.1)
  | some (.str s) => .ok (s.toList.map fun c => .str (String.singleton c))
  | some _ => .error .noItems

/-! ## Rendering -/

namespace Expr

def field (v : Value) (name : String) : Except Fault Value :=
  match v with
  | none => .error .noAttributes
  | some (.obj fields) => .ok (Entries.get? fields name)
  | some _ => .ok none

/-- The text that a filter makes of a value. -/
def applyFilter (filters : Filters) (v : Value) (name : String) : Except Fault Value :=
  match Entries.get? filters name with
  | none => .error (.unknownFilter name)
  | some f =>
    match v with
    | some (.str s) => .ok (some (.str (f s)))
    | _ => .error .notAText

def eval (filters : Filters) (scope : Json.Fields) (e : Expr) : Except Fault Value := do
  let v ← e.attributes.foldlM field (Entries.get? scope e.name)
  e.filters.foldlM (applyFilter filters) v

end Expr

mutual

def Node.render (filters : Filters) (scope : Json.Fields) : Node → Except Fault (List Char)
  | .text chars => .ok chars
  | .output e => do return shown (← e.eval filters scope)
  | .forEach each items body => do
    let items ← itemsOf (← items.eval filters scope)
    let parts ← items.mapM fun item => renderAll filters ((each, item) :: scope) body
    return parts.flatten
  | .ifTrue condition body otherwise => do
    if truthy (← condition.eval filters scope) then renderAll filters scope body
    else renderAll filters scope otherwise

def renderAll (filters : Filters) (scope : Json.Fields) :
    List Node → Except Fault (List Char)
  | [] => .ok []
  | node :: rest => do
    let front ← node.render filters scope
    let back ← renderAll filters scope rest
    return front ++ back

end

end ToolScaffold.Template
