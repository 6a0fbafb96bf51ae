import DiagramLinks.Url

namespace DiagramLinks

/-- Line and column, both from zero. -/
structure Position where
  line : UInt32
  column : UInt32
deriving Repr, DecidableEq

/-- A range as given; its end may lie before its start. -/
structure Range where
  start : Position
  stop : Position
deriving Repr, DecidableEq

/-- A range inside a document. -/
structure Location where
  uri : Url
  range : Range
deriving Repr, DecidableEq

/-- Whether one position comes before another: by line, then by column. -/
def Position.before (a b : Position) : Bool :=
  a.line < b.line || (a.line == b.line && a.column < b.column)

def Position.text (p : Position) : List Char :=
  Nat.toDigits 10 p.line.toNat ++ ':' :: Nat.toDigits 10 p.column.toNat

def Range.isEmpty (r : Range) : Bool :=
  r.start == r.stop

def Range.text (r : Range) : List Char :=
  r.start.text ++ '-' :: r.stop.text

namespace Location

/-- The range to scroll to and to highlight: an empty or reversed one shrinks to its start. -/
def revealRange (l : Location) : Range :=
  if l.range.start.before l.range.stop then l.range else ⟨l.range.start, l.range.start⟩

/-- The document, then the range as `line:column-line:column`. -/
def text (l : Location) : String :=
  String.ofList (l.uri.text.toList ++ ':' :: l.range.text)

end Location

end DiagramLinks
