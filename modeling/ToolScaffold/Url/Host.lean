import ToolScaffold.Text.LowerCase
import ToolScaffold.Url.Address
import ToolScaffold.Url.Host.Table
import ToolScaffold.Url.Punycode

/-!
# Hosts

The host of an address is a name or a numeric address. A name is brought into its final form
character by character, and is then split into labels at its points. What the labels may hold
depends on the directions that their characters are written in, and on the joiners among them.
-/

namespace ToolScaffold.Url.Host

/-! ## Characters -/

/-- The ASCII characters that no name may hold. -/
def isForbidden (c : Char) : Bool :=
  c.toNat ≤ 0x20 || c.toNat = 0x7F || "%#/:<>?@[\\]^|".toList.contains c

/-- What a character becomes; none if no name may hold it. -/
def replace? (c : Char) : Option (List Char) :=
  if c.toNat < 0x80 then
    let c := c.toLower
    if isForbidden c then none else some [c]
  else if ignoredRanges.contains c then some []
  else if refusedRanges.contains c then none
  else
    match asciiRuns.find? fun run => decide (run.first ≤ c.toNat) && decide (c.toNat ≤ run.last),
        asciiTexts.find? fun entry => entry.1 = c.toNat with
    | some run, _ => some [Char.ofNat (run.target + (c.toNat - run.first))]
    | none, some entry => some entry.2.toList
    | none, none => some [c]

/-- How a character is written among others. -/
inductive Direction where
  | leftToRight
  | rightToLeft
  | arabicNumber
  | number
  | nonspacing
  | neutral
  deriving DecidableEq, Repr

def directionOf (c : Char) : Direction :=
  if c.toNat < 0x80 then
    if c.isAlpha then .leftToRight else if c.isDigit then .number else .neutral
  else if rightToLeftRanges.contains c then .rightToLeft
  else if arabicNumberRanges.contains c then .arabicNumber
  else if numberRanges.contains c then .number
  else if nonspacingRanges.contains c then .nonspacing
  else if neutralRanges.contains c then .neutral
  else .leftToRight

/-! ## Labels -/

/-- Whether text with the directions is written from right to left in part. -/
def isMixed (directions : List Direction) : Bool :=
  directions.any fun d => d = .rightToLeft || d = .arabicNumber

/-- Whether the directions of a label go together: it has to start with a letter, end with a letter
or a number, and hold none of what belongs to the other direction. -/
def areConsistent (directions : List Direction) : Bool :=
  let last := (directions.reverse.dropWhile (· = .nonspacing)).head?
  match directions with
  | [] => true
  | .rightToLeft :: _ =>
    !directions.contains .leftToRight &&
      !(directions.contains .number && directions.contains .arabicNumber) &&
      last.any fun d => d = .rightToLeft || d = .number || d = .arabicNumber
  | .leftToRight :: _ =>
    !isMixed directions && last.any fun d => d = .leftToRight || d = .number
  | _ => false

/-- The character that keeps letters apart. -/
def nonJoiner : Char := Char.ofNat 0x200C

/-- The character that makes letters join. -/
def joiner : Char := Char.ofNat 0x200D

/-- Whether the joiners stand where they may: after a sign that calls for one, or, to keep letters
apart, between two that would join. `before` is what stands before, read backwards. -/
def joinersFit (before : List Char) : List Char → Bool
  | [] => true
  | c :: rest =>
    let passed (cs : List Char) : Option Char := (cs.dropWhile nonspacingRanges.contains).head?
    let fits :=
      if c = joiner ∨ c = nonJoiner then
        before.head?.any viramaRanges.contains ||
          (c = nonJoiner && (passed before).any joinsNextRanges.contains &&
            (passed rest).any joinsPreviousRanges.contains)
      else true
    fits && joinersFit (c :: before) rest

/-- Whether a label begins in the way of those that are written in ASCII. -/
def isCoded : List Char → Bool
  | 'x' :: 'n' :: '-' :: '-' :: _ => true
  | _ => false

/-- Whether a character can stand in the final form of a name. -/
def isFinal (c : Char) : Bool :=
  if c.toNat < 0x80 then !isForbidden c && !c.isUpper
  else !changedRanges.contains c && !refusedRanges.contains c

/-- Whether a label may stand as it is. -/
def isSound (label : List Char) : Bool :=
  !label.head?.any markRanges.contains && joinersFit [] label

/-- The text that a label stands for; none if there is no such label. -/
def meaning? (label : List Char) : Option (List Char) :=
  if isCoded label then do
    if label.any fun c => 0x80 ≤ c.toNat then none
    let text ← Punycode.decode? (label.drop 4)
    if text.all (fun c => c.toNat < 0x80) || !text.all isFinal || !isSound text then none
    return text
  else if isSound label then some label
  else none

/-! ## Hosts -/

/-- The name in its final form; none if it is not a name. -/
def final? (cs : List Char) : Option (List Char) := do
  let name := (← cs.mapM replace?).flatten
  let labels ← (pointed name).mapM meaning?
  let directions := labels.map (·.map directionOf)
  if directions.any isMixed && !directions.all areConsistent then none
  return name

/-- Whether the bytes are the name of a host, or an address of four bytes. -/
def isName (bytes : List UInt8) : Bool :=
  match String.fromUTF8? (ByteArray.mk bytes.toArray) with
  | none => false
  | some s =>
    match final? s.toList with
    | none => false
    | some name => !name.isEmpty && (!endsInNumber name || isFourBytes name)

/-- The bytes of a text in which a percent sign and two hexadecimal digits stand for a byte. -/
def bytesOf : List Char → List UInt8
  | '%' :: a :: b :: rest =>
    match number? 16 [a, b] with
    | some n => n.toUInt8 :: bytesOf rest
    | none => (String.singleton '%').toUTF8.toList ++ bytesOf (a :: b :: rest)
  | c :: rest => (String.singleton c).toUTF8.toList ++ bytesOf rest
  | [] => []

def isHost (cs : List Char) : Bool :=
  match cs with
  | '[' :: rest => rest.getLast? = some ']' && isEightWords rest.dropLast
  | _ => isName (bytesOf cs)

end ToolScaffold.Url.Host
