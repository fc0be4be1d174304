import ToolScaffold.Json.Reader.Basic

/-!
# Reading strings

The characters of a string up to its closing quotation mark. An escape by number is four hexadecimal
digits; a character beyond the sixteen-bit range takes two such escapes, a leading and a trailing
surrogate.
-/

namespace ToolScaffold.Json

def hexValue? (c : Char) : Option Nat :=
  if '0' ≤ c ∧ c ≤ '9' then some (c.toNat - '0'.toNat)
  else if 'a' ≤ c ∧ c ≤ 'f' then some (c.toNat - 'a'.toNat + 10)
  else if 'A' ≤ c ∧ c ≤ 'F' then some (c.toNat - 'A'.toNat + 10)
  else none

/-- The number that four hexadecimal digits write. -/
def quadValue? (a b c d : Char) : Option Nat := do
  return (((← hexValue? a) * 16 + (← hexValue? b)) * 16 + (← hexValue? c)) * 16 + (← hexValue? d)

namespace Reader

/-- Four hexadecimal digits. The four bytes are taken before they are looked at, so a text that ends
within them ends inside of the string. -/
def quad : Reader Nat where
  run s :=
    if ReadError.byteCount (s.take 4) < 4 then .error ⟨.endInString, [], 0⟩
    else match s with
      | a :: b :: c :: d :: rest =>
        match quadValue? a b c d with
        | some n => .ok (n, rest)
        | none => .error ⟨.invalidEscape, s, 4⟩
      | _ => .error ⟨.invalidEscape, s, 4⟩
  shrinks {s n r} h := by
    split at h
    · simp at h
    · split at h
      · split at h
        · cases h
          simp only [List.length_cons]
          omega
        · simp at h
      · simp at h

/-- The trailing half of a surrogate pair. -/
def trailingSurrogate (leading : Nat) : Reader Char := do
  for expected in ['\\', 'u'] do
    match ← peek with
    | none => fail .endInString
    | some c => if c = expected then advance else failAtNext .endOfHexEscape
  let trailing ← quad
  if 0xDC00 ≤ trailing ∧ trailing ≤ 0xDFFF then
    return Char.ofNat (0x10000 + (leading - 0xD800) * 0x400 + (trailing - 0xDC00))
  else fail .loneSurrogate

/-- A character written by number. -/
def numberedChar : Reader Char := do
  let n ← quad
  if 0xDC00 ≤ n ∧ n ≤ 0xDFFF then fail .loneSurrogate
  else if 0xD800 ≤ n ∧ n ≤ 0xDBFF then trailingSurrogate n
  else return Char.ofNat n

/-- The character that an escape of one letter stands for. -/
def simpleEscape? (c : Char) : Option Char :=
  if c = '"' then some '"'
  else if c = '\\' then some '\\'
  else if c = '/' then some '/'
  else if c = 'b' then some '\x08'
  else if c = 'f' then some '\x0c'
  else if c = 'n' then some '\n'
  else if c = 'r' then some '\r'
  else if c = 't' then some '\t'
  else none

/-- What stands after a backslash; `number` reads a character written by number. -/
def escaped (number : Reader Char) : Reader Char := do
  match ← peek with
  | none => fail .endInString
  | some c =>
    match simpleEscape? c with
    | some d =>
      advance
      return d
    | none =>
      if c = 'u' then
        advance
        number
      else failAtNext .invalidEscape

/-- The characters up to the closing quotation mark. -/
def runString (number : Reader Char) (s : List Char) : Except Failure (List Char × List Char) :=
  match s with
  | [] => .error ⟨.endInString, [], 0⟩
  | c :: rest =>
    if c = '"' then .ok ([], rest)
    else if c = '\\' then
      match _step : (escaped number).run rest with
      | .error e => .error e
      | .ok (d, rest') =>
        match runString number rest' with
        | .error e => .error e
        | .ok (cs, r) => .ok (d :: cs, r)
    else if c.toNat < 0x20 then .error ⟨.controlCharacter, s, 1⟩
    else
      match runString number rest with
      | .error e => .error e
      | .ok (cs, r) => .ok (c :: cs, r)
termination_by s.length
decreasing_by
  · have := (escaped number).shrinks _step
    simp only [List.length_cons]
    omega
  · simp

theorem runString_shrinks (number : Reader Char) (s : List Char) {cs r}
    (h : runString number s = .ok (cs, r)) : r.length ≤ s.length := by
  fun_induction runString number s generalizing cs r with
  | case1 => simp at h
  | case2 rest => cases h; simp
  | case3 => simp at h
  | case4 => simp at h
  | case5 rest d rest' hr cs' r' hs hq ih =>
    cases h
    have h1 := (escaped number).shrinks hr
    have h2 := ih hs
    simp only [List.length_cons]
    omega
  | case6 => simp at h
  | case7 => simp at h
  | case8 c rest hq hb hc cs' r' hs ih =>
    cases h
    have h2 := ih hs
    simp only [List.length_cons]
    omega

def string : Reader String := do
  let cs ← (⟨runString numberedChar, runString_shrinks numberedChar _⟩ : Reader (List Char))
  return String.ofList cs

/-- Passes over a string whose opening quotation mark is read. The digits of an escape are looked
at, but not what they stand for. -/
def skipString : Reader Unit := do
  let number : Reader Char := do
    let _ ← quad
    return ' '
  let _ ← (⟨runString number, runString_shrinks number _⟩ : Reader (List Char))

end Reader

end ToolScaffold.Json
