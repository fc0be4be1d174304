import ToolScaffold.Decimal.Nearest
import ToolScaffold.Json.Basic

/-!
# Values of scalars

What a scalar stands for: a plain one may be null, a boolean or a number by its spelling, and a tag
can ask for one of these; all other scalars are texts.
-/

namespace ToolScaffold.Yaml.Scalar

/-- The spellings of null. -/
def null? (s : List Char) : Option Json :=
  if ["null", "Null", "NULL", "~"].contains (String.ofList s) then some .null else none

/-- The spellings of the booleans. -/
def bool? (s : List Char) : Option Json :=
  if ["true", "True", "TRUE"].contains (String.ofList s) then some (.bool true)
  else if ["false", "False", "FALSE"].contains (String.ofList s) then some (.bool false)
  else none

/-! ## Integers -/

def digit? (radix : Nat) (c : Char) : Option Nat :=
  let n :=
    if c.isDigit then c.toNat - '0'.toNat
    else if 'a' ≤ c ∧ c ≤ 'f' then c.toNat - 'a'.toNat + 10
    else if 'A' ≤ c ∧ c ≤ 'F' then c.toNat - 'A'.toNat + 10
    else radix
  if n < radix then some n else none

def digits? (radix : Nat) (s : List Char) : Option Nat :=
  if s.isEmpty then none
  else s.foldlM (fun n c => do return n * radix + (← digit? radix c)) 0

/-- A number with the sign for its radix: `0x`, `0o` or `0b`. -/
def withRadix? : List Char → Option Nat
  | '0' :: 'x' :: digits => digits? 16 digits
  | '0' :: 'o' :: digits => digits? 8 digits
  | '0' :: 'b' :: digits => digits? 2 digits
  | _ => none

/-- Whether the text is two digits or more that start with a zero, after a sign if there is one. -/
def hasLeadingZero (s : List Char) : Bool :=
  let s :=
    match s with
    | '+' :: rest => rest
    | '-' :: rest => rest
    | _ => s
  match s with
  | '0' :: c :: rest => (c :: rest).all Char.isDigit
  | _ => false

/-- The integer that the text writes, whatever its size. -/
def integer? (s : List Char) : Option Int :=
  match s with
  | '-' :: rest =>
    match withRadix? rest with
    | some n => some (-n)
    | none => if hasLeadingZero s then none else (digits? 10 rest).map fun n => -(n : Int)
  | _ =>
    let unsigned :=
      match s with
      | '+' :: rest => rest
      | _ => s
    match withRadix? unsigned with
    | some n => some n
    | none => if hasLeadingZero s then none else (digits? 10 unsigned).map Int.ofNat

/-- The sizes of integers: those that a number can hold, and those that are refused; others are read
as doubles. -/
inductive Size where
  | held
  | refused
  | large

/-- The size of an integer. The sign of a positive one is written or not. -/
def Size.ofInt (n : Int) : Size :=
  if -0x8000000000000000 ≤ n ∧ n < 0x10000000000000000 then .held
  else if -0x80000000000000000000000000000000 ≤ n ∧ n < 0x100000000000000000000000000000000 then
    .refused
  else .large

/-! ## Doubles -/

/-- The spellings of what is no finite number. -/
def isNonFinite (s : List Char) : Bool :=
  [".inf", ".Inf", ".INF", "+.inf", "+.Inf", "+.INF", "-.inf", "-.Inf", "-.INF",
    ".nan", ".NaN", ".NAN"].contains (String.ofList s)

/-- The exponent that the text writes: a letter and an integer, or nothing. -/
def exponent? (s : List Char) : Option Int :=
  match s with
  | [] => some 0
  | c :: rest =>
    if c ≠ 'e' ∧ c ≠ 'E' then none
    else
      match rest with
      | '-' :: digits => (digits? 10 digits).map fun n => -(n : Int)
      | '+' :: digits => (digits? 10 digits).map Int.ofNat
      | digits => (digits? 10 digits).map Int.ofNat

/-- The finite double that an unsigned literal writes: digits with at most one point among or around
them, then maybe an exponent. -/
def unsignedFloat? (s : List Char) : Option Float := do
  let whole := s.takeWhile Char.isDigit
  let rest := s.dropWhile Char.isDigit
  let (fraction, rest) :=
    match rest with
    | '.' :: rest => (rest.takeWhile Char.isDigit, rest.dropWhile Char.isDigit)
    | _ => ([], rest)
  let significand ← digits? 10 (whole ++ fraction)
  let exponent ← exponent? rest
  let x := Decimal.nearest significand (exponent - fraction.length)
  if x.isFinite then some x else none

/-- The double that the text writes; what is not finite is null. -/
def float? (s : List Char) : Option Json :=
  if isNonFinite s then some .null
  else
    match s with
    | '-' :: rest => (unsignedFloat? rest).map fun x => .num (.float (-x))
    | '+' :: rest => (unsignedFloat? rest).map fun x => .num (.float x)
    | _ => (unsignedFloat? s).map fun x => .num (.float x)

/-! ## Scalars -/

/-- The value of a plain scalar without a tag; none if it is an integer that is refused. -/
def plain (s : List Char) : Option Json :=
  let text : Json := .str (String.ofList s)
  let other := if hasLeadingZero s then text else (float? s).getD text
  if s.isEmpty then some .null
  else
    match null? s <|> bool? s with
    | some value => some value
    | none =>
      match integer? s with
      | none => some other
      | some n =>
        match Size.ofInt n with
        | .held => some (.num (.int n))
        | .refused => none
        | .large => some other

def value (tag : Option String) (isPlain : Bool) (text : String) : Option Json :=
  let s := text.toList
  match tag with
  | none => if isPlain then plain s else some (.str text)
  | some tag =>
    if tag.startsWith "!" then none
    else if tag = "tag:yaml.org,2002:bool" then bool? s
    else if tag = "tag:yaml.org,2002:null" then null? s
    else if tag = "tag:yaml.org,2002:float" then float? s
    else if tag = "tag:yaml.org,2002:int" then do
      let n ← integer? s
      match Size.ofInt n with
      | .held => some (.num (.int n))
      | _ => none
    else some (.str text)

end ToolScaffold.Yaml.Scalar
