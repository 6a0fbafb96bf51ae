import DiagramLinks.Double
import DiagramLinks.Json

namespace DiagramLinks.Json

inductive Fault
  | endInList
  | endInObject
  | endInString
  | endInValue
  | expectedColon
  | expectedCommaOrBracket
  | expectedCommaOrBrace
  | expectedWord
  | expectedValue
  | invalidEscape
  | invalidNumber
  | numberOutOfRange
  | loneSurrogate
  | unfinishedSurrogate
  | controlCharacter
  | keyNotString
  | trailingComma
  | trailingText
  | nestedTooDeep
deriving Repr, DecidableEq

def Fault.message : Fault → String
  | endInList => "EOF while parsing a list"
  | endInObject => "EOF while parsing an object"
  | endInString => "EOF while parsing a string"
  | endInValue => "EOF while parsing a value"
  | expectedColon => "expected `:`"
  | expectedCommaOrBracket => "expected `,` or `]`"
  | expectedCommaOrBrace => "expected `,` or `\x7d`"
  | expectedWord => "expected ident"
  | expectedValue => "expected value"
  | invalidEscape => "invalid escape"
  | invalidNumber => "invalid number"
  | numberOutOfRange => "number out of range"
  | loneSurrogate => "lone leading surrogate in hex escape"
  | unfinishedSurrogate => "unexpected end of hex escape"
  | controlCharacter => "control character (\\u0000-\\u001F) found while parsing a string"
  | keyNotString => "key must be a string"
  | trailingComma => "trailing comma"
  | trailingText => "trailing characters"
  | nestedTooDeep => "recursion limit exceeded"

/-- A fault, the text left unread, from which line and column follow, and how many bytes of it were
looked at. -/
structure Failure where
  fault : Fault
  rest : List Char
  ahead : Nat

/-- The outcome of reading a part of a text: what was read, and the text after it. -/
abbrev Reading (α : Type) := Except Failure (α × List Char)

def skipBlanks (s : List Char) : List Char :=
  s.dropWhile fun c => c == ' ' || c == '\n' || c == '\t' || c == '\r'

/-- Reads the rest of a literal name whose first letter is known. -/
def word (expected : List Char) (v : Json) (s : List Char) : Reading Json :=
  match expected, s with
  | [], s => .ok (v, s)
  | _ :: _, [] => .error ⟨.endInValue, [], 0⟩
  | e :: expected, c :: rest =>
    if c = e then word expected v rest else .error ⟨.expectedWord, c :: rest, 1⟩

def digitValue (c : Char) : Nat :=
  c.toNat - '0'.toNat

/-- Integer digits join the significand while it fits 64 bits; after the first that does not, each
only raises the exponent. -/
def absorbWhole (state : Nat × Nat) (c : Char) : Nat × Nat :=
  let next := state.1 * 10 + digitValue c
  if state.2 = 0 ∧ next < UInt64.size then (next, 0) else (state.1, state.2 + 1)

/-- Fraction digits join the significand while it fits 64 bits; from the first that does not, all
are dropped. The second part counts those taken. -/
def absorbFraction (significand taken : Nat) : List Char → Nat × Nat
  | [] => (significand, taken)
  | c :: rest =>
    let next := significand * 10 + digitValue c
    if next < UInt64.size then absorbFraction next (taken + 1) rest else (significand, taken)

def signed (negative : Bool) (x : Float) : Number :=
  .double (if negative then -x else x)

def scaled (negative : Bool) (significand : Nat) (exponent : Int) (rest : List Char) : Reading Number :=
  match Double.scaleByTen? significand.toUInt64.toFloat exponent with
  | some x => .ok (signed negative x, rest)
  | none => .error ⟨.numberOutOfRange, rest, 0⟩

/-- A number without fraction and exponent. Minus zero and what lies below the least 64-bit integer
are doubles. -/
def whole (negative : Bool) (significand : Nat) : Number :=
  if negative = false then .natural significand.toUInt64
  else if significand = 0 ∨ 0x8000000000000000 < significand then signed true significand.toUInt64.toFloat
  else .negative (Int64.ofInt (-(significand : Int)))

/-- Digits of an exponent. Beyond 31 bits a positive one is out of range, unless the significand is
zero, and a negative one gives zero. -/
def exponentDigits (negative : Bool) (significand : Nat) (start : Int) (raises : Bool) (sum : Nat) :
    List Char → Reading Number
  | [] => scaled negative significand (if raises then start + sum else start - sum) []
  | c :: rest =>
    if c.isDigit then
      let next := sum * 10 + digitValue c
      if next < 0x80000000 then exponentDigits negative significand start raises next rest
      else if significand ≠ 0 ∧ raises then .error ⟨.numberOutOfRange, rest, 0⟩
      else .ok (signed negative 0.0, rest.dropWhile Char.isDigit)
    else scaled negative significand (if raises then start + sum else start - sum) (c :: rest)

def exponent (negative : Bool) (significand : Nat) (start : Int) (s : List Char) : Reading Number :=
  let (raises, s) := match s with
    | '+' :: rest => (true, rest)
    | '-' :: rest => (false, rest)
    | s => (true, s)
  match s with
  | [] => .error ⟨.endInValue, [], 0⟩
  | c :: rest =>
    if c.isDigit then exponentDigits negative significand start raises (digitValue c) rest
    else .error ⟨.invalidNumber, c :: rest, 1⟩

def isExponentMark (c : Char) : Bool :=
  c == 'e' || c == 'E'

def fraction (negative : Bool) (significand dropped : Nat) (s : List Char) : Reading Number :=
  let digits := s.takeWhile Char.isDigit
  let rest := s.dropWhile Char.isDigit
  if digits.isEmpty then
    .error ⟨if rest.isEmpty then .endInValue else .invalidNumber, rest, 1⟩
  else
    let (significand, taken) := absorbFraction significand 0 digits
    let start := (dropped : Int) - taken
    match rest with
    | c :: after =>
      if isExponentMark c then exponent negative significand start after
      else scaled negative significand start rest
    | [] => scaled negative significand start rest

def afterWhole (negative : Bool) (significand dropped : Nat) (s : List Char) : Reading Number :=
  match s with
  | '.' :: rest => fraction negative significand dropped rest
  | c :: rest =>
    if isExponentMark c then exponent negative significand dropped rest
    else if dropped = 0 then .ok (whole negative significand, s)
    else scaled negative significand dropped s
  | [] =>
    if dropped = 0 then .ok (whole negative significand, s)
    else scaled negative significand dropped s

/-- A number, after its sign. A leading zero stands alone. -/
def numeral (negative : Bool) (s : List Char) : Reading Number :=
  match s with
  | [] => .error ⟨.endInValue, [], 0⟩
  | c :: rest =>
    if c = '0' then
      match rest with
      | d :: _ => if d.isDigit then .error ⟨.invalidNumber, rest, 1⟩ else afterWhole negative 0 0 rest
      | [] => afterWhole negative 0 0 rest
    else if c.isDigit then
      let (significand, dropped) := (s.takeWhile Char.isDigit).foldl absorbWhole (0, 0)
      afterWhole negative significand dropped (s.dropWhile Char.isDigit)
    else .error ⟨.invalidNumber, s, 1⟩

def utf8Length (s : List Char) : Nat :=
  (String.ofList s).utf8ByteSize

def hexValue? (c : Char) : Option Nat :=
  if c.isDigit then some (c.toNat - '0'.toNat)
  else if 'a' ≤ c ∧ c ≤ 'f' then some (c.toNat - 'a'.toNat + 10)
  else if 'A' ≤ c ∧ c ≤ 'F' then some (c.toNat - 'A'.toNat + 10)
  else none

/-- The 16-bit unit that four hexadecimal digits write. -/
def unit? (a b c d : Char) : Option Nat := do
  return (((← hexValue? a) * 16 + (← hexValue? b)) * 16 + (← hexValue? c)) * 16 + (← hexValue? d)

/-- Four bytes are wanted; if they are there they are no hexadecimal digits. -/
def badUnit (s : List Char) : Failure :=
  if utf8Length s < 4 then ⟨.endInString, [], 0⟩ else ⟨.invalidEscape, s, 4⟩

def plainEscape? (c : Char) : Option Char :=
  if c = '"' ∨ c = '\\' ∨ c = '/' then some c
  else if c = 'b' then some '\x08'
  else if c = 'f' then some '\x0c'
  else if c = 'n' then some '\n'
  else if c = 'r' then some '\r'
  else if c = 't' then some '\t'
  else none

def fromSurrogates (high low : Nat) : Char :=
  Char.ofNat ((high - 0xD800) * 0x400 + (low - 0xDC00) + 0x10000)

def prepend (c : Char) (r : List Char × List Char) : List Char × List Char :=
  (c :: r.1, r.2)

def characters : List Char → Reading (List Char)
  | [] => .error ⟨.endInString, [], 0⟩
  | c :: rest =>
    if c = '"' then .ok ([], rest)
    else if c = '\\' then
      match rest with
      | [] => .error ⟨.endInString, [], 0⟩
      | e :: rest =>
        match plainEscape? e with
        | some c => (characters rest).map (prepend c)
        | none =>
          if e = 'u' then
            match rest with
            | a :: b :: c :: d :: after =>
              match unit? a b c d with
              | none => .error (badUnit rest)
              | some high =>
                if high < 0xD800 ∨ 0xE000 ≤ high then (characters after).map (prepend (Char.ofNat high))
                else if 0xDC00 ≤ high then .error ⟨.loneSurrogate, after, 0⟩
                else
                  match after with
                  | '\\' :: 'u' :: a :: b :: c :: d :: after =>
                    match unit? a b c d with
                    | none => .error (badUnit (a :: b :: c :: d :: after))
                    | some low =>
                      if 0xDC00 ≤ low ∧ low < 0xE000 then
                        (characters after).map (prepend (fromSurrogates high low))
                      else .error ⟨.loneSurrogate, after, 0⟩
                  | '\\' :: 'u' :: after => .error (badUnit after)
                  | [] => .error ⟨.endInString, [], 0⟩
                  | ['\\'] => .error ⟨.endInString, [], 0⟩
                  | '\\' :: after => .error ⟨.unfinishedSurrogate, after, 1⟩
                  | after => .error ⟨.unfinishedSurrogate, after, 1⟩
            | _ => .error (badUnit rest)
          else .error ⟨.invalidEscape, e :: rest, 1⟩
    else if c.toNat < 0x20 then .error ⟨.controlCharacter, rest, 0⟩
    else (characters rest).map (prepend c)

/-- Items up to the closing bracket. `fuel` bounds their number; each takes at least a character. -/
def items (item : List Char → Reading Json) : Nat → Bool → List Char → Reading (List Json)
  | 0, _, s => .error ⟨.endInList, s, 1⟩
  | fuel + 1, first, s =>
    let next (s : List Char) : Reading (List Json) :=
      match item s with
      | .error f => .error f
      | .ok (v, s) => (items item fuel false s).map fun (vs, s) => (v :: vs, s)
    match skipBlanks s with
    | [] => .error ⟨.endInList, [], 1⟩
    | c :: rest =>
      if c = ']' then .ok ([], rest)
      else if first then next (c :: rest)
      else if c = ',' then
        match skipBlanks rest with
        | [] => .error ⟨.endInValue, [], 1⟩
        | d :: rest => if d = ']' then .error ⟨.trailingComma, d :: rest, 1⟩ else next (d :: rest)
      else .error ⟨.expectedCommaOrBracket, c :: rest, 1⟩

def entry (item : List Char → Reading Json) (s : List Char) : Reading (String × Json) :=
  match characters s with
  | .error f => .error f
  | .ok (key, s) =>
    match skipBlanks s with
    | [] => .error ⟨.endInObject, [], 1⟩
    | c :: rest =>
      if c = ':' then (item rest).map fun (v, s) => ((String.ofList key, v), s)
      else .error ⟨.expectedColon, c :: rest, 1⟩

def entries (item : List Char → Reading Json) :
    Nat → Bool → List Char → Reading (List (String × Json))
  | 0, _, s => .error ⟨.endInObject, s, 1⟩
  | fuel + 1, first, s =>
    let next (s : List Char) : Reading (List (String × Json)) :=
      match entry item s with
      | .error f => .error f
      | .ok (e, s) => (entries item fuel false s).map fun (es, s) => (e :: es, s)
    match skipBlanks s with
    | [] => .error ⟨.endInObject, [], 1⟩
    | c :: rest =>
      if c = '\x7d' then .ok ([], rest)
      else if first then
        if c = '"' then next rest else .error ⟨.keyNotString, c :: rest, 1⟩
      else if c = ',' then
        match skipBlanks rest with
        | [] => .error ⟨.endInValue, [], 1⟩
        | d :: rest =>
          if d = '"' then next rest
          else .error ⟨if d = '\x7d' then .trailingComma else .keyNotString, d :: rest, 1⟩
      else .error ⟨.expectedCommaOrBrace, c :: rest, 1⟩

/-- A value whose arrays and objects nest at most `depth` deep. -/
def value (depth : Nat) (s : List Char) : Reading Json :=
  match skipBlanks s with
  | [] => .error ⟨.endInValue, [], 1⟩
  | c :: rest =>
    if c = 'n' then word ['u', 'l', 'l'] .null rest
    else if c = 't' then word ['r', 'u', 'e'] (.bool true) rest
    else if c = 'f' then word ['a', 'l', 's', 'e'] (.bool false) rest
    else if c = '-' then (numeral true rest).map fun (n, s) => (.number n, s)
    else if c.isDigit then (numeral false (c :: rest)).map fun (n, s) => (.number n, s)
    else if c = '"' then (characters rest).map fun (cs, s) => (.string (String.ofList cs), s)
    else if c = '[' then
      match depth with
      | 0 => .error ⟨.nestedTooDeep, c :: rest, 1⟩
      | depth + 1 => (items (value depth) (rest.length + 1) true rest).map fun (vs, s) => (.array vs, s)
    else if c = '\x7b' then
      match depth with
      | 0 => .error ⟨.nestedTooDeep, c :: rest, 1⟩
      | depth + 1 =>
        (entries (value depth) (rest.length + 1) true rest).map fun (es, s) => (record es, s)
    else .error ⟨.expectedValue, c :: rest, 1⟩

def depthLimit : Nat := 127

/-- Why a text is no JSON, and where: lines from one, columns in bytes. -/
structure TextError where
  fault : Fault
  line : Nat
  column : Nat
deriving Repr, DecidableEq

def TextError.message (e : TextError) : String :=
  s!"{e.fault.message} at line {e.line} column {e.column}"

def locate (line column bytes : Nat) : List Char → Nat × Nat
  | [] => (line, column)
  | c :: rest =>
    if bytes = 0 then (line, column)
    else if c = '\n' then locate (line + 1) 0 (bytes - 1) rest
    else
      let size := min c.utf8Size bytes
      locate line (column + size) (bytes - size) rest

def Failure.toTextError (source : List Char) (f : Failure) : TextError :=
  let bytes := utf8Length source - utf8Length f.rest + f.ahead
  let (line, column) := locate 1 0 bytes source
  ⟨f.fault, line, column⟩

/-- The value that a text writes, blanks around it allowed. -/
def ofChars (source : List Char) : Except TextError Json :=
  match value depthLimit source with
  | .error f => .error (f.toTextError source)
  | .ok (v, rest) =>
    match skipBlanks rest with
    | [] => .ok v
    | rest => .error (Failure.toTextError source ⟨.trailingText, rest, 1⟩)

def ofText (source : String) : Except TextError Json :=
  ofChars source.toList

end DiagramLinks.Json
