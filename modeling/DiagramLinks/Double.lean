namespace DiagramLinks.Double

/-- `mantissa * 2 ^ exponent`, with the sign kept apart. -/
structure Dyadic where
  negative : Bool
  mantissa : Nat
  exponent : Int
  /-- The mantissa is the smallest of its binade, so the gap below it is half the gap above. -/
  narrow : Bool
deriving Repr, DecidableEq

def signBit : Nat := 0x8000000000000000

/-- Reads the three fields of a finite double. -/
def dyadic (x : Float) : Dyadic :=
  let bits : Nat := x.toBits.toNat
  let fraction : Nat := bits % 0x10000000000000
  let biased : Nat := bits / 0x10000000000000 % 0x800
  let negative := decide (signBit ≤ bits)
  if biased = 0 then ⟨negative, fraction, -1074, false⟩
  else ⟨negative, fraction + 0x10000000000000, (biased : Int) - 1075, decide (fraction = 0 ∧ 1 < biased)⟩

/-- The double nearest to `10 ^ k`. -/
def powerOfTen (k : Nat) : Float :=
  Float.ofScientific 1 false k

/-- `x * 10 ^ exponent` in double arithmetic, one rounding per step of at most 308 places; `none` if it
leaves the finite range. -/
def scaleByTen? (x : Float) (exponent : Int) : Option Float :=
  if exponent.natAbs ≤ 308 then
    if 0 ≤ exponent then
      let y := x * powerOfTen exponent.natAbs
      if y.isInf then none else some y
    else some (x / powerOfTen exponent.natAbs)
  else if x == 0.0 then some x
  else if 0 ≤ exponent then none
  else scaleByTen? (x / powerOfTen 308) (exponent + 308)
termination_by exponent.natAbs
decreasing_by omega

/-- The place of a double in the total order of bit patterns: negative before positive, and each
side by magnitude. -/
def orderKey (x : Float) : Int :=
  let bits : Nat := x.toBits.toNat
  if bits < signBit then bits else signBit - 1 - (bits : Int)

end DiagramLinks.Double
