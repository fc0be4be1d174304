/-!
# Labels in ASCII form

A label with other characters than ASCII is written in ASCII as its own ASCII characters, a hyphen,
and a list of insertions: each is a number, written with digits whose weights adapt to the numbers
before, that tells how far to move on from the place and the character inserted last.
-/

namespace ToolScaffold.Url.Punycode

/-- The value of a digit: letters first, then decimal digits. -/
def digit? (c : Char) : Option Nat :=
  if 'a' ≤ c ∧ c ≤ 'z' then some (c.toNat - 'a'.toNat)
  else if 'A' ≤ c ∧ c ≤ 'Z' then some (c.toNat - 'A'.toNat)
  else if c.isDigit then some (c.toNat - '0'.toNat + 26)
  else none

/-- The greatest number that may come up. -/
def maxNumber : Nat := 0xFFFFFFFF

/-- The digit that ends a number if it is below the threshold. -/
def threshold (bias position : Nat) : Nat :=
  if position ≤ bias then 1 else if bias + 26 ≤ position then 26 else position - bias

/-- Adds the digits of one number to `n`, the first with the given weight. -/
def readNumber (bias : Nat) : (position weight n : Nat) → List Char → Option (Nat × List Char)
  | _, _, _, [] => none
  | position, weight, n, c :: rest => do
    let d ← digit? c
    let n := n + d * weight
    if maxNumber < n then none
    let t := threshold bias position
    if d < t then return (n, rest)
    else readNumber bias (position + 36) (weight * (36 - t)) n rest

/-- Shrinks a distance to the range where one digit more or less matters. `fuel` bounds the steps. -/
def shrink : (fuel delta steps : Nat) → Nat
  | 0, delta, steps => steps + 36 * delta / (delta + 38)
  | fuel + 1, delta, steps =>
    if 455 < delta then shrink fuel (delta / 35) (steps + 36)
    else steps + 36 * delta / (delta + 38)

/-- The bias after an insertion over a distance in a text that now has `length` characters. -/
def adapt (delta length : Nat) (isFirst : Bool) : Nat :=
  let delta := if isFirst then delta / 700 else delta / 2
  shrink 32 (delta + delta / length) 0

/-- Carries the insertions out. `place` counts through the text and, at its end, to the next
character. -/
def insertAll (fuel : Nat) (bias place code : Nat) (isFirst : Bool) (text cs : List Char) :
    Option (List Char) :=
  match fuel with
  | 0 => some text
  | fuel + 1 =>
    if cs.isEmpty then some text
    else do
      let (n, rest) ← readNumber bias 36 1 place cs
      let length := text.length + 1
      let bias := adapt (n - place) length isFirst
      let code := code + n / length
      let place := n % length
      if !code.isValidChar then none
      insertAll fuel bias (place + 1) code false
        (text.take place ++ Char.ofNat code :: text.drop place) rest

/-- The text that a label stands for, without its mark. -/
def decode? (cs : List Char) : Option (List Char) :=
  let reversed := cs.reverse
  let (text, digits) :=
    if cs.contains '-' then
      (((reversed.dropWhile (· ≠ '-')).drop 1).reverse, (reversed.takeWhile (· ≠ '-')).reverse)
    else ([], cs)
  insertAll digits.length 72 0 128 true text digits

end ToolScaffold.Url.Punycode
