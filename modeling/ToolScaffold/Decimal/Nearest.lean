/-!
# Reading a decimal into a double

A literal is read as a whole number times a power of ten. The whole number is rounded to a double
and then multiplied or divided by one double of the table of powers of ten, each step rounding: the
answer is within a few units of the last place of the literal's value, and exact for short literals.
-/

namespace ToolScaffold.Decimal

def powerOfTen (n : Nat) : Float := Float.ofScientific 1 false n

def greatestPower : Nat := 308

def divideByPower (x : Float) (n : Nat) : Float :=
  if n ≤ greatestPower then x / powerOfTen n
  else if x == 0 then x
  else divideByPower (x / powerOfTen greatestPower) (n - greatestPower)
termination_by n
decreasing_by simp only [greatestPower] at *; omega

/-- The double read from `significand · 10 ^ exponent`; none if it is too large for a double. -/
def scaled? (significand : UInt64) (exponent : Int) : Option Float :=
  let x := significand.toFloat
  if exponent < 0 then some (divideByPower x exponent.natAbs)
  else if exponent ≤ greatestPower then
    let y := x * powerOfTen exponent.natAbs
    if y.isInf then none else some y
  else if x == 0 then some x
  else none

/-- The double nearest to `significand · 10 ^ exponent`, rounded once; infinite if it is too large.
Exponents that no double comes near are not computed with. -/
def nearest (significand : Nat) (exponent : Int) : Float :=
  let places := (Nat.toDigits 10 significand).length
  if significand = 0 ∨ exponent + places < -400 then 0
  else if 400 < exponent + places then 1 / 0
  else if exponent < 0 then Float.ofScientific significand true exponent.natAbs
  else Float.ofScientific significand false exponent.natAbs

end ToolScaffold.Decimal
