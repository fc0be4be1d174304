/-!
# The fewest digits that read back

A positive binary floating-point number is `mantissa · 2 ^ exponent`. Every real number closer to it
than to its neighbours rounds to it; those numbers form an interval, whose ends belong to it when
the mantissa is even. The shortest decimal of the number is the point of the interval on the
coarsest grid of powers of ten that has one; of two such points the nearer, of two equally near
ones the even one.
-/

namespace ToolScaffold

structure Decimal where
  digits : Nat
  exponent : Int
  deriving Repr, DecidableEq, Inhabited

/-- The number `mantissa · 2 ^ exponent`. `closeBelow` says that the neighbour below is only half as
far away as the neighbour above. -/
structure Binary where
  mantissa : Nat
  exponent : Int
  closeBelow : Bool
  deriving Repr, DecidableEq, Inhabited

namespace Binary

/-- The magnitude that the bits of a double encode. -/
def ofBits (bits : UInt64) : Binary :=
  let fraction : Nat := bits.toNat % 0x10000000000000
  let field : Nat := bits.toNat >>> 52 % 0x800
  if field = 0 then ⟨fraction, -1074, false⟩
  else
    ⟨0x10000000000000 + fraction, (field : Int) - 1075,
      decide (fraction = 0) && decide (1 < field)⟩

/-- A quarter of the mantissa's unit, as a fraction: numerator and denominator. -/
def quarter (b : Binary) : Nat × Nat :=
  (1 <<< (b.exponent - 2).toNat, 1 <<< (2 - b.exponent).toNat)

/-- The grid point below the number at a spacing of `10 ^ x`, if that point or the next one rounds
to the number; of the two, the nearer. -/
def onGrid? (b : Binary) (x : Int) : Option Nat :=
  let (unit, den) := b.quarter
  -- everything is measured in quarters, over the common denominator `den`
  let spacing := Nat.pow 10 x.toNat * den
  let scale := Nat.pow 10 (-x).toNat * unit
  let value := 4 * b.mantissa * scale
  let low := (4 * b.mantissa - if b.closeBelow then 1 else 2) * scale
  let high := (4 * b.mantissa + 2) * scale
  let inside (p : Nat) : Bool :=
    if b.mantissa % 2 = 0 then decide (low ≤ p) && decide (p ≤ high)
    else decide (low < p) && decide (p < high)
  let below := value / spacing
  let down := below * spacing
  let up := (below + 1) * spacing
  match inside down, inside up with
  | true, true =>
    if value - down < up - value then some below
    else if up - value < value - down then some (below + 1)
    else if below % 2 = 0 then some below else some (below + 1)
  | true, false => some below
  | false, true => some (below + 1)
  | false, false => none

/-- The finest grid that can be needed: the number itself lies on it. -/
def finest (b : Binary) : Int := min b.exponent 0

/-- The number written out on its finest grid. -/
def exact (b : Binary) : Decimal :=
  ⟨b.mantissa <<< (b.exponent - b.finest).toNat * Nat.pow 5 (-b.finest).toNat, b.finest⟩

/-- The first hit on the grids of spacing `10 ^ x` and finer. -/
def shortestFrom (b : Binary) (x : Int) : Decimal :=
  match b.onGrid? x with
  | some digits => ⟨digits, x⟩
  | none => if b.finest < x then b.shortestFrom (x - 1) else b.exact
termination_by (x - b.finest).toNat

def shortest (b : Binary) : Decimal :=
  b.shortestFrom (Nat.toDigits 10 (b.mantissa <<< b.exponent.toNat)).length

end Binary

end ToolScaffold
