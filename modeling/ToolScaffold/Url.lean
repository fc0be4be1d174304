import ToolScaffold.Url.Host

/-!
# Web addresses

Whether a text is an address that the two schemes of the web can open, read with the leniency that
browsers have: controls and spaces around it are dropped, line breaks and tabs are dropped
everywhere, slashes may lean either way and may be of any number.
-/

namespace ToolScaffold.Url

/-- Controls and the space. -/
def isOuter (c : Char) : Bool := c.toNat ≤ 0x20

/-- The text that counts. -/
def relevant (cs : List Char) : List Char :=
  let trimmed := ((cs.dropWhile isOuter).reverse.dropWhile isOuter).reverse
  trimmed.filter fun c => !(c = '\t' || c = '\n' || c = '\r')

/-- The scheme in lower case and what follows its colon. -/
def scheme? (cs : List Char) : Option (List Char × List Char) :=
  let isPart (c : Char) : Bool := c.isAlphanum || c = '+' || c = '-' || c = '.'
  match cs, cs.dropWhile isPart with
  | c :: _, ':' :: rest => if c.isAlpha then some ((cs.takeWhile isPart).map Char.toLower, rest) else none
  | _, _ => none

def isSlash (c : Char) : Bool := c = '/' || c = '\\'

/-- The end of the part of an address that names the host. -/
def isEnd (c : Char) : Bool := isSlash c || c = '?' || c = '#'

/-- What follows the last sign that ends the part for the user. -/
def afterUser (authority : List Char) : List Char :=
  (authority.reverse.takeWhile (· ≠ '@')).reverse

/-- The host, and what follows it: a colon between brackets is a part of it. -/
def splitHost (inBrackets : Bool) : List Char → List Char × List Char
  | [] => ([], [])
  | c :: rest =>
    if c = ':' ∧ !inBrackets then ([], c :: rest)
    else
      let inBrackets := if c = '[' then true else if c = ']' then false else inBrackets
      let (host, left) := splitHost inBrackets rest
      (c :: host, left)

/-- Whether what follows the host is nothing or a port: a colon and a number, which may be
missing. -/
def isPort : List Char → Bool
  | [] => true
  | c :: digits =>
    c = ':' && digits.all Char.isDigit && (number? 10 digits).any (· < 0x10000)

def isWebAddress (text : String) : Bool :=
  match scheme? (relevant text.toList) with
  | none => false
  | some (scheme, rest) =>
    (scheme = "http".toList || scheme = "https".toList) &&
      let authority := (rest.dropWhile isSlash).takeWhile (!isEnd ·)
      let (host, port) := splitHost false (afterUser authority)
      !host.isEmpty && Host.isHost host && isPort port

end ToolScaffold.Url
