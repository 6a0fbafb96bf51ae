import DiagramLinks.Double.Shortest
import DiagramLinks.Json

namespace DiagramLinks.Json

def hexDigit (n : Nat) : Char :=
  Nat.digitChar (n % 16)

/-- Short escapes where the grammar has one, four hexadecimal digits for other control characters. -/
def escape (c : Char) : List Char :=
  if c = '"' then ['\\', '"']
  else if c = '\\' then ['\\', '\\']
  else if c = '\n' then ['\\', 'n']
  else if c = '\r' then ['\\', 'r']
  else if c = '\t' then ['\\', 't']
  else if c = '\x08' then ['\\', 'b']
  else if c = '\x0c' then ['\\', 'f']
  else if c.toNat < 0x20 then ['\\', 'u', '0', '0', hexDigit (c.toNat / 16), hexDigit c.toNat]
  else [c]

def stringText (s : String) : List Char :=
  '"' :: (s.toList.flatMap escape ++ ['"'])

def Number.text : Number → List Char
  | natural n => Nat.toDigits 10 n.toNat
  | negative n => (toString n.toInt).toList
  | double x => Double.text x

mutual
def text : Json → List Char
  | null => "null".toList
  | bool true => "true".toList
  | bool false => "false".toList
  | number n => n.text
  | string s => stringText s
  | array items => '[' :: (itemsText items ++ [']'])
  | object entries => '\x7b' :: (entriesText entries ++ ['\x7d'])

def itemsText : List Json → List Char
  | [] => []
  | [v] => v.text
  | v :: w :: rest => v.text ++ ',' :: itemsText (w :: rest)

def entriesText : List (String × Json) → List Char
  | [] => []
  | [(k, v)] => stringText k ++ ':' :: v.text
  | (k, v) :: e :: rest => stringText k ++ ':' :: (v.text ++ ',' :: entriesText (e :: rest))
end

/-- The text of a value without blanks, its entries in their order. -/
def compact (v : Json) : String :=
  String.ofList v.text

end DiagramLinks.Json
