import ToolScaffold.Entries

/-!
# JSON values

A number is an integer or a double: an integer literal outside of the range of 64-bit words is a
double, and so is every literal with a point or an exponent. Objects keep the order of their keys.
-/

namespace ToolScaffold

inductive Number where
  | int (n : Int)
  | float (x : Float)

inductive Json where
  | null
  | bool (b : Bool)
  | num (n : Number)
  | str (s : String)
  | arr (items : List Json)
  | obj (fields : List (String × Json))

namespace Json

instance : Inhabited Json := ⟨.null⟩

/-- The fields of an object in order. -/
abbrev Fields := Entries Json

def text? : Json → Option String
  | .str s => some s
  | _ => none

def fields? : Json → Option Fields
  | .obj fields => some fields
  | _ => none

end Json

end ToolScaffold
