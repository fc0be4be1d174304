import ToolScaffold.Decimal.Nearest
import ToolScaffold.Json.Reader.Basic

/-!
# Reading numbers

A number has a whole part without leading zeros, then maybe a fraction, then maybe an exponent. Its
digits are collected into a 64-bit word for as long as they fit; whole digits that no longer fit
only raise the exponent, and fraction digits that no longer fit are dropped.
-/

namespace ToolScaffold.Json

def maxWord : Nat := 0xFFFFFFFFFFFFFFFF

/-- The greatest exponent that is told apart from larger ones. -/
def maxExponent : Nat := 0x7FFFFFFF

def digitValue (c : Char) : Nat := c.toNat - '0'.toNat

/-- Appends whole digits to the word; second, the number of digits from the first that overflows. -/
def appendWhole (word : Nat) : List Char → Nat × Nat
  | [] => (word, 0)
  | c :: rest =>
    let longer := word * 10 + digitValue c
    if longer ≤ maxWord then appendWhole longer rest else (word, rest.length + 1)

/-- Appends fraction digits to the word; second, the number of digits before the first that
overflows. -/
def appendFraction (word : Nat) : List Char → Nat × Nat
  | [] => (word, 0)
  | c :: rest =>
    let longer := word * 10 + digitValue c
    if longer ≤ maxWord then
      let (word, used) := appendFraction longer rest
      (word, used + 1)
    else (word, 0)

/-- An integer literal that fits a word. A negative one below the range of signed words, and the
negative zero, is a double. -/
def integer (negative : Bool) (word : Nat) : Number :=
  if negative then
    if word = 0 ∨ 0x8000000000000000 < word then .float (-word.toUInt64.toFloat) else .int (-word)
  else .int word

namespace Reader

/-- The digits of an exponent after those with the value `value`. Past the limit the rest of the
digits is skipped, or, where the number would be too large, refused at once. -/
def runExponent (refuse : Bool) (value : Nat) : List Char → Except Failure (Nat × List Char)
  | [] => .ok (value, [])
  | c :: rest =>
    if c.isDigit then
      let longer := value * 10 + digitValue c
      if longer ≤ maxExponent then runExponent refuse longer rest
      else if refuse then .error ⟨.numberOutOfRange, rest, 0⟩
      else .ok (longer, rest.dropWhile Char.isDigit)
    else .ok (value, c :: rest)

theorem runExponent_shrinks (refuse : Bool) (value : Nat) (s : List Char) {n r}
    (h : runExponent refuse value s = .ok (n, r)) : r.length ≤ s.length := by
  induction s generalizing value with
  | nil => cases h; exact Nat.le_refl _
  | cons c rest ih =>
    simp only [runExponent] at h
    split at h
    · split at h
      · have := ih _ h
        simp only [List.length_cons]
        omega
      · split at h
        · cases h
        · cases h
          have := (List.dropWhile_sublist Char.isDigit (l := rest)).length_le
          simp only [List.length_cons]
          omega
    · cases h
      exact Nat.le_refl _

def wholeDigits : Reader (List Char) := do
  match ← peek with
  | none => fail .endInValue
  | some c =>
    if c.isDigit then
      let digits ← takeWhile Char.isDigit
      return digits
    else failAtNext .invalidNumber

/-- The fraction, whose point is read. -/
def fractionDigits : Reader (List Char) := do
  let digits ← takeWhile Char.isDigit
  if digits.isEmpty then
    match ← peek with
    | none => fail .endInValue
    | some _ => failAtNext .invalidNumber
  else return digits

/-- The exponent, whose letter is read. -/
def exponentValue (word : Nat) : Reader Int := do
  let sign ← peek
  if sign = some '+' ∨ sign = some '-' then advance
  let negative := sign = some '-'
  match ← peek with
  | none => fail .endInValue
  | some c =>
    if c.isDigit then
      let refuse := !negative && word ≠ 0
      let value ← (⟨runExponent refuse 0, runExponent_shrinks refuse 0 _⟩ : Reader Nat)
      return if negative then -(value : Int) else value
    else failAtNext .invalidNumber

/-- A leading zero stands alone. -/
def refuseLeadingZero (digits : List Char) : Reader Unit where
  run s :=
    match digits with
    | '0' :: c :: more => .error ⟨.invalidNumber, c :: more ++ s, 1⟩
    | _ => .ok ((), s)
  shrinks h := by
    split at h
    · cases h
    · cases h; exact Nat.le_refl _

def number (negative : Bool) : Reader Number := do
  let whole ← wholeDigits
  refuseLeadingZero whole
  let (word, dropped) := appendWhole 0 whole
  let mark ← peek
  let (word, used) ←
    if mark = some '.' then do
      advance
      let digits ← fractionDigits
      pure (appendFraction word digits)
    else pure (word, 0)
  let point : Int := dropped - used
  let letter ← peek
  if letter = some 'e' ∨ letter = some 'E' then
    advance
    finish word (point + (← exponentValue word))
  else if mark = some '.' ∨ dropped ≠ 0 then finish word point
  else return integer negative word
where
  /-- The double for a word and an exponent. -/
  finish (word : Nat) (exponent : Int) : Reader Number := do
    match Decimal.scaled? word.toUInt64 exponent with
    | some x => return .float (if negative then -x else x)
    | none => fail .numberOutOfRange

/-- Passes over a number whose sign, if any, is read; its size does not matter. -/
def skipNumber : Reader Unit := do
  digits
  if (← peek) = some '.' then
    advance
    let fraction ← takeWhile Char.isDigit
    if fraction.isEmpty then failAtNext .invalidNumber
  let letter ← peek
  if letter = some 'e' ∨ letter = some 'E' then
    advance
    let sign ← peek
    if sign = some '+' ∨ sign = some '-' then advance
    let exponent ← takeWhile Char.isDigit
    if exponent.isEmpty then failAtNext .invalidNumber
where
  /-- The whole part, without leading zeros. -/
  digits : Reader Unit := do
    let whole ← takeWhile Char.isDigit
    if whole.isEmpty then failAtNext .invalidNumber
    refuseLeadingZero whole

end Reader

end ToolScaffold.Json
