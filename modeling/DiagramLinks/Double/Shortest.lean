import DiagramLinks.Double

namespace DiagramLinks.Double

/-- `digits * 10 ^ exponent`. -/
structure Decimal where
  digits : Nat
  exponent : Int
deriving Repr, DecidableEq

/-- Number of decimal digits of `n`; one for zero. -/
def digitCount (n : Nat) : Nat :=
  (Nat.toDigits 10 n).length

/-- The exponent of the leading decimal digit of `n / d`, for positive `n` and `d`. -/
def leadingPlace (n d : Nat) : Int :=
  if d ≤ n then (digitCount (n / d) : Int) - 1 else -(digitCount ((d - 1) / n) : Int)

/-- The multiple of `10 ^ place` nearest to the double among those that read back as it. Reals that
round to the double lie within half a gap; the ends count when the mantissa is even. -/
def onGrid? (x : Dyadic) (place : Int) : Option Nat :=
  let unit := Nat.pow 10 place.toNat * Nat.pow 2 (2 - x.exponent).toNat
  let quarter := Nat.pow 2 (x.exponent - 2).toNat * Nat.pow 10 (-place).toNat
  let value := 4 * x.mantissa * quarter
  let low := (4 * x.mantissa - if x.narrow then 1 else 2) * quarter
  let high := (4 * x.mantissa + 2) * quarter
  let readsBack (a : Nat) : Bool :=
    if x.mantissa % 2 = 0 then low ≤ a * unit ∧ a * unit ≤ high
    else low < a * unit ∧ a * unit < high
  let below := value / unit
  let lower := if 0 < below ∧ readsBack below then some below else none
  let upper := if readsBack (below + 1) then some (below + 1) else none
  match lower, upper with
  | some a, some b =>
    let down := value - a * unit
    let up := b * unit - value
    if down < up ∨ (down = up ∧ a % 2 = 0) then some a else some b
  | some a, none => some a
  | none, upper => upper

/-- Fewest digits first; of equally short decimals the nearest. -/
def shortest (x : Dyadic) : Decimal :=
  if x.mantissa = 0 then ⟨0, 0⟩
  else
    let lead := leadingPlace (4 * x.mantissa * Nat.pow 2 (x.exponent - 2).toNat)
      (Nat.pow 2 (2 - x.exponent).toNat)
    ((List.range 18).findSome? fun (k : Nat) =>
      (onGrid? x (lead - k)).map fun a => ⟨a, lead - k⟩).getD ⟨0, 0⟩

def dropTrailingZeros (digits : List Char) : List Char :=
  (digits.reverse.dropWhile (· == '0')).reverse

/-- Positional from `1e-5` up to below `1e16`, with a digit after the point; otherwise one digit
before the point and a signed exponent. -/
def layout (digits : List Char) (lead : Int) : List Char :=
  if digits.isEmpty then ['0', '.', '0']
  else if lead < -5 ∨ 16 ≤ lead then
    let fraction := digits.drop 1
    let sign := if lead < 0 then '-' else '+'
    digits.take 1 ++ (if fraction.isEmpty then [] else '.' :: fraction)
      ++ ['e', sign] ++ Nat.toDigits 10 lead.natAbs
  else if lead < 0 then
    ['0', '.'] ++ List.replicate (lead.natAbs - 1) '0' ++ digits
  else
    let whole := lead.toNat + 1
    let fraction := digits.drop whole
    digits.take whole ++ List.replicate (whole - digits.length) '0' ++ ['.']
      ++ (if fraction.isEmpty then ['0'] else fraction)

def text (x : Float) : List Char :=
  let parts := dyadic x
  let decimal := shortest parts
  let written := Nat.toDigits 10 decimal.digits
  let lead := (written.length : Int) - 1 + decimal.exponent
  (if parts.negative then ['-'] else [])
    ++ layout (dropTrailingZeros (if decimal.digits = 0 then [] else written)) lead

end DiagramLinks.Double
