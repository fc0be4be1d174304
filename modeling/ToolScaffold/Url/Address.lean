/-!
# Numeric addresses

The two forms of numeric host addresses: four bytes, written as one to four numbers with points
between them, and eight 16-bit words, written in hexadecimal with colons between them, of which one
run of zeros may be left out and the last two may be written as four bytes.
-/

namespace ToolScaffold.Url

/-! ## Four bytes -/

/-- The parts between points. -/
def pointed : List Char → List (List Char)
  | [] => [[]]
  | c :: rest =>
    if c = '.' then [] :: pointed rest
    else
      match pointed rest with
      | [] => [[c]]
      | part :: parts => (c :: part) :: parts

def digit? (radix : Nat) (c : Char) : Option Nat :=
  let n :=
    if c.isDigit then c.toNat - '0'.toNat
    else if 'a' ≤ c ∧ c ≤ 'z' then c.toNat - 'a'.toNat + 10
    else if 'A' ≤ c ∧ c ≤ 'Z' then c.toNat - 'A'.toNat + 10
    else radix
  if n < radix then some n else none

/-- The number that the digits write; none of them is zero. -/
def number? (radix : Nat) (digits : List Char) : Option Nat :=
  digits.foldlM (fun n c => do return n * radix + (← digit? radix c)) 0

/-- One number of an address: hexadecimal after `0x`, octal after `0`, otherwise decimal. -/
def byteNumber? (part : List Char) : Option Nat :=
  match part with
  | [] => none
  | '0' :: 'x' :: digits => number? 16 digits
  | '0' :: 'X' :: digits => number? 16 digits
  | '0' :: c :: digits => number? 8 (c :: digits)
  | digits => number? 10 digits

/-- Whether the name of a host has to be an address, as its last part is a number. One point at the
end does not count. -/
def endsInNumber (host : List Char) : Bool :=
  let last (part : List Char) : Bool :=
    (!part.isEmpty && part.all Char.isDigit) || (byteNumber? part).isSome
  match (pointed host).reverse with
  | [] :: part :: _ => last part
  | [] :: [] => false
  | part :: _ => last part
  | [] => false

def isFourBytes (host : List Char) : Bool :=
  let parts :=
    match (pointed host).reverse with
    | [] :: parts => parts
    | parts => parts
  match parts.mapM byteNumber? with
  | some (last :: bytes) =>
    bytes.length < 4 && bytes.all (· < 256) && last < Nat.pow 256 (4 - bytes.length)
  | _ => false

/-! ## Eight words -/

/-- Whether the text is a byte in decimal without leading zeros. -/
def isPlainByte (part : List Char) : Bool :=
  match part with
  | [] => false
  | ['0'] => true
  | '0' :: _ => false
  | digits => digits.length ≤ 3 && (number? 10 digits).any (· < 256)

/-- Whether the text is four bytes, which stand for the last two words. -/
def isTail (cs : List Char) : Bool :=
  let parts := pointed cs
  parts.length = 4 && parts.all isPlainByte

/-- The parts between colons. -/
def colonParts : List Char → List (List Char)
  | [] => [[]]
  | c :: rest =>
    if c = ':' then [] :: colonParts rest
    else
      match colonParts rest with
      | [] => [[c]]
      | part :: parts => (c :: part) :: parts

/-- Whether the text is a word of one to four digits. -/
def isWordPart (part : List Char) : Bool :=
  !part.isEmpty && part.length ≤ 4 && (number? 16 part).isSome

/-- The number of words that the parts write, if they write words, at the end maybe four bytes. -/
def words? : List (List Char) → Option Nat
  | [] => some 0
  | [part] => if isWordPart part then some 1 else if isTail part then some 2 else none
  | part :: rest => if isWordPart part then (words? rest).map (· + 1) else none

/-- Whether the text is an address of eight words. Two colons next to each other, at most once, stand
for at least one word of zero. -/
def isEightWords (cs : List Char) : Bool :=
  let parts := colonParts cs
  -- an address that begins or ends with the two colons has an empty part more there
  match parts with
  | [] :: [] :: rest =>
    if rest = [[]] then true
    else !rest.isEmpty && (words? rest).any (· ≤ 7)
  | _ =>
    let front := parts.takeWhile (!·.isEmpty)
    match parts.dropWhile (!·.isEmpty) with
    | [] => words? front = some 8
    | _ :: rest =>
      !front.isEmpty && front.all isWordPart &&
        if rest = [[]] then front.length ≤ 7
        else !rest.isEmpty && (words? rest).any (front.length + · ≤ 7)

end ToolScaffold.Url
