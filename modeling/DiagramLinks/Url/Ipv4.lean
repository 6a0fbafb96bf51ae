import DiagramLinks.Url.Percent

namespace DiagramLinks.Url.Ipv4

def digits? (base : Nat) (s : List Char) : Option Nat :=
  s.foldlM (fun sum c => do
    let d ← hexDigit? c
    if d < base then some (sum * base + d) else none) 0

/-- A number with its base in front: `0x` for sixteen, `0` for eight. A bare base is zero. -/
def number? : List Char → Option Nat
  | [] => none
  | '0' :: 'x' :: s => digits? 16 s
  | '0' :: 'X' :: s => digits? 16 s
  | '0' :: c :: s => digits? 8 (c :: s)
  | s => digits? 10 s

/-- The parts between dots, without an empty one at the end. -/
def parts (s : List Char) : List (List Char) :=
  let all := s.splitOn '.'
  if all.getLast? = some [] ∧ 1 < all.length then all.dropLast else all

/-- A host is read as an address when its last part is a number or all digits. -/
def looksNumeric (host : List Char) : Bool :=
  match (parts host).getLast? with
  | none => false
  | some last =>
    (!last.isEmpty && last.all Char.isDigit) || (number? last).isSome

/-- Numbers before the last fill a byte each. -/
def assemble : Nat → List Nat → Option Nat
  | _, [] => none
  | room, [last] => if last < Nat.pow 256 room then some last else none
  | room, n :: rest =>
    if n < 256 then (assemble (room - 1) rest).map (n * Nat.pow 256 (room - 1) + ·) else none

/-- One to four numbers in decimal, octal or hexadecimal; the last fills the bytes that are left. -/
def ofHost? (host : List Char) : Option Nat := do
  let numbers ← (parts host).mapM number?
  if numbers.length ≤ 4 then assemble 4 numbers else none

def text (address : Nat) : List Char :=
  let byte (i : Nat) : List Char := Nat.toDigits 10 (address / Nat.pow 256 i % 256)
  byte 3 ++ '.' :: (byte 2 ++ '.' :: (byte 1 ++ '.' :: byte 0))

end DiagramLinks.Url.Ipv4
