namespace DiagramLinks.Url

def escapesAlways (c : Char) : Bool :=
  c.toNat < 0x20 || 0x7e < c.toNat

def escapesInFragment (c : Char) : Bool :=
  escapesAlways c || [' ', '"', '<', '>', '`'].contains c

def escapesInPath (c : Char) : Bool :=
  escapesInFragment c || ['#', '?', '\x7b', '\x7d'].contains c

def escapesInUserinfo (c : Char) : Bool :=
  escapesInPath c || ['/', ':', ';', '=', '@', '[', '\\', ']', '^', '|'].contains c

/-- Schemes with a fixed meaning of their authority also escape the apostrophe. -/
def escapesInQuery (special : Bool) (c : Char) : Bool :=
  escapesAlways c || [' ', '"', '#', '<', '>'].contains c || (special && c == '\'')

def upperHex (n : Nat) : Char :=
  (Nat.digitChar (n % 16)).toUpper

def escapeByte (b : UInt8) : List Char :=
  ['%', upperHex (b.toNat / 16), upperHex b.toNat]

/-- A character, or the escapes of its UTF-8 bytes. -/
def escapeChar (escapes : Char → Bool) (c : Char) : List Char :=
  if escapes c then (String.utf8EncodeChar c).flatMap escapeByte else [c]

def percentEncode (escapes : Char → Bool) (s : List Char) : List Char :=
  s.flatMap (escapeChar escapes)

def hexDigit? (c : Char) : Option Nat :=
  if c.isDigit then some (c.toNat - '0'.toNat)
  else if 'a' ≤ c ∧ c ≤ 'f' then some (c.toNat - 'a'.toNat + 10)
  else if 'A' ≤ c ∧ c ≤ 'F' then some (c.toNat - 'A'.toNat + 10)
  else none

/-- The bytes that a text stands for; a percent sign without two hexadecimal digits stands for
itself. -/
def percentDecode : List Char → List UInt8
  | [] => []
  | '%' :: a :: b :: rest =>
    match hexDigit? a, hexDigit? b with
    | some high, some low => UInt8.ofNat (16 * high + low) :: percentDecode rest
    | _, _ => UInt8.ofNat '%'.toNat :: percentDecode (a :: b :: rest)
  | c :: rest => String.utf8EncodeChar c ++ percentDecode rest

end DiagramLinks.Url
