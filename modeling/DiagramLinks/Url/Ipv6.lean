import DiagramLinks.Url.Ipv4

namespace DiagramLinks.Url.Ipv6

def splitGap : List Char → List Char × Option (List Char)
  | [] => ([], none)
  | ':' :: ':' :: rest => ([], some rest)
  | c :: rest =>
    let (left, right) := splitGap rest
    (c :: left, right)

/-- The parts between colons; none in an empty text. -/
def pieces (s : List Char) : List (List Char) :=
  if s.isEmpty then [] else s.splitOn ':'

/-- One to four hexadecimal digits. -/
def unit? (s : List Char) : Option Nat :=
  if s.isEmpty ∨ 4 < s.length then none else Ipv4.digits? 16 s

/-- A decimal byte without leading zeros. -/
def byte? (s : List Char) : Option Nat :=
  match s with
  | [] => none
  | '0' :: _ :: _ => none
  | s => (Ipv4.digits? 10 s).filter (· < 256)

/-- A dotted IPv4 address as two units. -/
def dotted? (s : List Char) : Option (List Nat) := do
  match ← (s.splitOn '.').mapM byte? with
  | [a, b, c, d] => some [256 * a + b, 256 * c + d]
  | _ => none

/-- The units of a run of pieces; only the last may be dotted, and only where `tail` allows it. -/
def units? (tail : Bool) : List (List Char) → Option (List Nat)
  | [] => some []
  | [piece] => if tail && piece.contains '.' then dotted? piece else (unit? piece).map ([·])
  | piece :: rest => do return (← unit? piece) :: (← units? tail rest)

def ofText? (s : List Char) : Option (List Nat) :=
  match splitGap s with
  | (all, none) => (units? true (pieces all)).filter (·.length = 8)
  | (left, some right) => do
    let front ← units? false (pieces left)
    let back ← units? true (pieces right)
    if front.length + back.length ≤ 7 then
      some (front ++ List.replicate (8 - front.length - back.length) 0 ++ back)
    else none

def zeros (units : List Nat) : Nat :=
  (units.takeWhile (· = 0)).length

/-- Start and length of the longest run of zeros; the first of equally long ones. -/
def longestRun : Nat → List Nat → Nat × Nat
  | _, [] => (0, 0)
  | start, u :: rest =>
    let (other, length) := longestRun (start + 1) rest
    if length ≤ zeros (u :: rest) then (start, zeros (u :: rest)) else (other, length)

def joinUnits (units : List Nat) : List Char :=
  [':'].intercalate (units.map (Nat.toDigits 16))

/-- Lower-case hexadecimal, with the longest run of at least two zeros as a double colon. -/
def text (units : List Nat) : List Char :=
  let (start, length) := longestRun 0 units
  if length < 2 then joinUnits units
  else joinUnits (units.take start) ++ [':', ':'] ++ joinUnits (units.drop (start + length))

end DiagramLinks.Url.Ipv6
