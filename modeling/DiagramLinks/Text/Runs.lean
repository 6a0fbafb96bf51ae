namespace DiagramLinks.Text

/-- A run reaches up to the start of the next one. -/
structure Run where
  start : Nat
  kind : Char
  numbers : List Nat
deriving Repr, DecidableEq

structure Runs where
  runs : Array Run

namespace Runs

def digit (c : Char) : Nat :=
  if c.isDigit then c.toNat - '0'.toNat else c.toNat - 'a'.toNat + 10

/-- The runs read so far, the latest first, and the number being read. -/
structure Decoding where
  runs : List Run
  number : Nat

def Decoding.step (d : Decoding) (c : Char) : Decoding :=
  if c.isUpper then
    let start := match d.runs with
      | [] => 0
      | run :: _ => run.start
    ⟨⟨start + d.number, c, []⟩ :: d.runs, 0⟩
  else if c = '.' then
    match d.runs with
    | [] => ⟨[], 0⟩
    | run :: rest => ⟨{ run with numbers := run.numbers ++ [d.number] } :: rest, 0⟩
  else { d with number := 36 * d.number + digit c }

/-- Reads the written form: the length of the run before in base 36, the kind of the run that starts
there as a capital letter, then its numbers, each in base 36 and with a period behind. -/
def decode (s : String) : Runs :=
  ⟨(s.toList.foldl Decoding.step ⟨[], 0⟩).runs.reverse.toArray⟩

/-- How many runs start at `n` or before; the answer lies between `low` and `high`, and every step
halves what lies between them. -/
def rank (a : Array Run) (n : Nat) : Nat → Nat → Nat → Nat
  | 0, low, _ => low
  | limit + 1, low, high =>
    if low < high then
      let middle := (low + high) / 2
      if (a[middle]?.map Run.start).getD 0 ≤ n then rank a n limit (middle + 1) high
      else rank a n limit low middle
    else low

def find (r : Runs) (c : Char) : Run :=
  (r.runs[rank r.runs c.toNat 32 0 r.runs.size - 1]?).getD ⟨0, ' ', []⟩

def kindOf (r : Runs) (c : Char) : Char :=
  (r.find c).kind

def findRun? (r : Runs) (p : Run → Bool) : Option Run :=
  r.runs.find? p

end Runs

end DiagramLinks.Text
