import DiagramLinks.Json.Printer
import DiagramLinks.Text.Quoted
import DiagramLinks.Url

namespace DiagramLinks

/-- What a part of a stored link has to be. -/
inductive Link.Part
  | text
  | word
  | position
  | link
deriving Repr, DecidableEq

def Link.Part.name : Link.Part → String
  | text => "a string"
  | word => "u32"
  | position => "struct LinkPosition"
  | link => "struct SerializedLink"

/-- The number of items that a part has when it is written as an array. -/
def Link.Part.size : Link.Part → Nat
  | text => 0
  | word => 0
  | position => 2
  | link => 3

/-- A value as named in messages: arrays and objects only by their kind. -/
def Json.described (v : Json) : String :=
  match v with
  | null => "null"
  | bool b => s!"boolean `{b}`"
  | number (.double x) => s!"floating point `{String.ofList (Double.text x)}`"
  | number n => s!"integer `{String.ofList n.text}`"
  | string s => s!"string {Text.quoted s}"
  | array _ => "sequence"
  | object _ => "map"

inductive Link.Malformed
  /-- A value of another kind. -/
  | wrongKind (found : Json) (expected : Part)
  /-- An integer beyond 32 bits or below zero. -/
  | wrongInteger (found : Json)
  | missing (key : String)
  | tooFewItems (count : Nat) (expected : Part)
  | tooManyItems (count : Nat)
  | badUri (uri : String) (fault : Url.Fault)

def Link.Malformed.message : Link.Malformed → String
  | wrongKind found expected => s!"invalid type: {found.described}, expected {expected.name}"
  | wrongInteger found => s!"invalid value: {found.described}, expected {Part.word.name}"
  | missing key => s!"missing field `{key}`"
  | tooFewItems count expected =>
    s!"invalid length {count}, expected {expected.name} with {expected.size} elements"
  | tooManyItems count => s!"invalid length {count}, expected fewer elements in array"
  | badUri uri fault => s!"invalid uri {Text.quoted uri}: {fault.message}"

end DiagramLinks
