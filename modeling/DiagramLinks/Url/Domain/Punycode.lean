namespace DiagramLinks.Url.Domain.Punycode

def digitChar (d : Nat) : Char :=
  if d < 26 then Char.ofNat ('a'.toNat + d) else Char.ofNat ('0'.toNat + (d - 26))

def digit? (c : Char) : Option Nat :=
  if 'a' ≤ c ∧ c ≤ 'z' then some (c.toNat - 'a'.toNat)
  else if c.isDigit then some (c.toNat - '0'.toNat + 26)
  else none

/-- A digit below this value is the last of its number; `place` counts up in steps of 36. -/
def threshold (place bias : Nat) : Nat :=
  min 26 (max 1 (place - bias))

theorem threshold_pos (place bias : Nat) : 0 < threshold place bias := by
  unfold threshold; omega

theorem threshold_le (place bias : Nat) : threshold place bias ≤ 26 := by
  unfold threshold; omega

/-- Divides by 35 until 455 is not exceeded; every division adds 36 to the bias. -/
def settle (delta bias : Nat) : Nat :=
  if 455 < delta then settle (delta / 35) (bias + 36) else bias + 36 * delta / (delta + 38)
termination_by delta

/-- The bias after a number, of which `count` characters are known then. -/
def adapt (delta count : Nat) (first : Bool) : Nat :=
  let delta := if first then delta / 700 else delta / 2
  settle (delta + delta / count) 0

def digits (bias place n : Nat) : List Char :=
  let t := threshold place bias
  if n < t then [digitChar n]
  else digitChar (t + (n - t) % (36 - t)) :: digits bias (place + 36) ((n - t) / (36 - t))
termination_by n
decreasing_by
  have := threshold_pos place bias
  have := threshold_le place bias
  calc (n - threshold place bias) / (36 - threshold place bias)
      ≤ n - threshold place bias := Nat.div_le_self _ _
    _ < n := by omega

/-- What was written, how many characters it covers, and what was passed over since. -/
structure Writing where
  out : List Char
  count : Nat
  delta : Nat
  bias : Nat

/-- Passes one character while those with the code point `n` are written. -/
def Writing.pass (basic n : Nat) (w : Writing) (c : Char) : Writing :=
  if c.toNat < n then { w with delta := w.delta + 1 }
  else if c.toNat = n then
    { out := w.out ++ digits w.bias 36 w.delta, count := w.count + 1, delta := 0
      bias := adapt w.delta (w.count + 1) (w.count = basic) }
  else w

/-- Writes the characters of each code point of an ascending list, from `n` on. -/
def writeAll (s : List Char) (basic : Nat) (n : Nat) (w : Writing) : List Nat → Writing
  | [] => w
  | m :: rest =>
    let w := { w with delta := w.delta + (m - n) * (w.count + 1) }
    let w := s.foldl (Writing.pass basic m) w
    writeAll s basic (m + 1) { w with delta := w.delta + 1 } rest

/-- The code points beyond ASCII, each once and in order. -/
def codePoints (s : List Char) : List Nat :=
  (((s.map Char.toNat).filter (0x80 ≤ ·)).mergeSort (· ≤ ·)).eraseDups

/-- The ASCII characters come first. The others follow in ascending order, each as the number of places
and code points passed over since the one before, in digits of base 36 whose weights adapt. -/
def encode (s : List Char) : List Char :=
  let basic := s.filter (·.toNat < 0x80)
  let out := if basic.isEmpty then [] else basic ++ ['-']
  (writeAll s basic.length 0x80 ⟨out, basic.length, 0, 72⟩ (codePoints s)).out

/-- The text read so far, the code point and the place for the next insertion, and the state of the
number being read: where it began, the weight of its next digit and the place of that digit. -/
structure Reading where
  out : List Char
  codePoint : Nat
  index : Nat
  bias : Nat
  start : Nat
  weight : Nat
  place : Nat

/-- Reads numbers and inserts a character for each. -/
def readAll (r : Reading) : List Char → Option (List Char)
  | [] => if r.place = 36 then some r.out else none
  | c :: rest =>
    match digit? c with
    | none => none
    | some d =>
      let index := r.index + d * r.weight
      let t := threshold r.place r.bias
      if d < t then
        let count := r.out.length + 1
        let codePoint := r.codePoint + index / count
        let spot := index % count
        if codePoint.isValidChar then
          readAll
            { out := r.out.take spot ++ Char.ofNat codePoint :: r.out.drop spot
              codePoint, index := spot + 1, bias := adapt (index - r.start) count (r.start = 0)
              start := spot + 1, weight := 1, place := 36 } rest
        else none
      else
        readAll { r with index, weight := r.weight * (36 - t), place := r.place + 36 } rest

/-- Reads ASCII. The last hyphen, unless it comes first, ends the characters that stand for
themselves. -/
def decode? (s : List Char) : Option (List Char) :=
  let tail := (s.reverse.takeWhile (· ≠ '-')).reverse
  let basic := (s.take (s.length - tail.length)).dropLast
  let numbers := if basic.isEmpty then s else tail
  readAll ⟨basic, 0x80, 0, 72, 0, 1, 36⟩ numbers

end DiagramLinks.Url.Domain.Punycode
