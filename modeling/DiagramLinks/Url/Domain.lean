import DiagramLinks.Text.Marks
import DiagramLinks.Url.Domain.Direction
import DiagramLinks.Url.Domain.Joining
import DiagramLinks.Url.Domain.Mapping
import DiagramLinks.Url.Domain.Punycode

namespace DiagramLinks.Url.Domain

/-- ASCII that no domain name may hold. -/
def isForbidden (c : Char) : Bool :=
  c.toNat ≤ 0x20 || c.toNat = 0x7f
    || ['%', '#', '/', ':', '<', '>', '?', '@', '[', '\\', ']', '^', '|'].contains c

def isAscii (s : List Char) : Bool :=
  s.all (·.toNat < 0x80)

/-- What labels in Punycode start with. -/
def marker : List Char := ['x', 'n', '-', '-']

/-- The longest label beyond ASCII, and the longest Punycode that is read. -/
def lengthLimit : Nat := 1000

def punycodeLimit : Nat := 2000

def readLabel? (label : List Char) : Option (List Char) :=
  if marker.isPrefixOf label then
    let code := label.drop marker.length
    if isAscii label ∧ code.length ≤ punycodeLimit then
      (Punycode.decode? code).filter fun s => !isAscii s && mapText? s == some s
    else none
  else some label

/-- No label holds forbidden characters, starts with a mark or has a joiner out of place. -/
def isSound (label : List Char) : Bool :=
  !label.any isForbidden && !(label.head?.any Text.isMark)
    && (isAscii label || (label.length ≤ lengthLimit && joinersFit [] label))

/-- Once a character runs to the left, every label keeps its direction. -/
def keepDirections (labels : List (List Char)) : Bool :=
  !labels.any (·.any runsLeft) || labels.all keepsDirection

def writeLabel (label : List Char) : List Char :=
  if isAscii label then label else marker ++ Punycode.encode label

/-- A domain name in ASCII, of the bytes of any. A label beyond ASCII is written in Punycode, and one
that comes so written must stand for a label that needs it. -/
def toAscii? (bytes : List UInt8) : Option (List Char) := do
  let s ← String.fromUTF8? ⟨bytes.toArray⟩
  let mapped ← mapText? s.toList
  let labels ← (mapped.splitOn '.').mapM readLabel?
  if labels.all isSound && keepDirections labels then
    some (List.intercalate ['.'] (labels.map writeLabel))
  else none

end DiagramLinks.Url.Domain
