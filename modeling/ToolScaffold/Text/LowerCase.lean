import ToolScaffold.Text.LowerCase.Table

/-!
# Lower case

Full lower-casing of a text. Each character has its own lower-case form, save the capital sigma,
whose form depends on its neighbours: at the end of a word it becomes the final sigma.
-/

namespace ToolScaffold.Text

def isCased (c : Char) : Bool := casedRanges.contains c

def isCaseIgnorable (c : Char) : Bool := caseIgnorableRanges.contains c

/-- Whether the run lists this code point. -/
def CaseRun.holds (r : CaseRun) (n : Nat) : Bool :=
  decide (r.first ≤ n) && decide (n ≤ r.last) && (n - r.first) % r.stride == 0

/-- The lower-case form of a character on its own. The dotted capital I keeps its dot as a combining
mark; every other form is a single character. -/
def lowerChar (c : Char) : List Char :=
  if c.toNat = 0x0130 then ['i', Char.ofNat 0x0307]
  else match caseRuns.find? (·.holds c.toNat) with
    | some r => [Char.ofNat (c.toNat + r.distance).toNat]
    | none => [c]

def capitalSigma : Char := Char.ofNat 0x03A3

def finalSigma : Char := Char.ofNat 0x03C2

def smallSigma : Char := Char.ofNat 0x03C3

/-- Whether the nearest character that counts has case. -/
def meetsCased (cs : List Char) : Bool :=
  match cs.dropWhile isCaseIgnorable with
  | c :: _ => isCased c
  | [] => false

/-- Lower-cases what follows `before`, the text to the left read backwards. A capital sigma ends a
word when a cased character stands to its left and none to its right. -/
def lowerAfter (before : List Char) : List Char → List Char
  | [] => []
  | c :: rest =>
    let form :=
      if c = capitalSigma then
        [if meetsCased before && !meetsCased rest then finalSigma else smallSigma]
      else lowerChar c
    form ++ lowerAfter (c :: before) rest

def lower (s : String) : String := String.ofList (lowerAfter [] s.toList)

end ToolScaffold.Text
