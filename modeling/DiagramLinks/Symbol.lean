import DiagramLinks.Double
import DiagramLinks.Location

namespace DiagramLinks

/-- A symbol as the workspace index lists it. -/
structure Symbol where
  name : String
  container : Option String
  location : Location
deriving Repr, DecidableEq

namespace Symbol

/-- Not a member of anything: without a container, or with one that has no name. -/
def isTopLevel (s : Symbol) : Bool :=
  match s.container with
  | none => true
  | some c => c.isEmpty

/-- What a document gains by being shown first in pane `i` of `n`. -/
def paneScore (n i : Nat) : Float :=
  (n.toFloat - i.toFloat) / n.toFloat

def topLevelBonus : Float := 10.0

/-- Preference of a symbol; a higher one comes first. -/
def score (visible : List Url) (s : Symbol) : Float :=
  let shown := match visible.idxOf? s.location.uri with
    | some i => paneScore visible.length i
    | none => 0.0
  if s.isTopLevel then shown + topLevelBonus else shown

def mayPrecede (visible : List Url) (s t : Symbol) : Bool :=
  Double.orderKey (t.score visible) ≤ Double.orderKey (s.score visible)

/-- The symbols of exactly one name, best first; equally good ones keep their order. -/
def ranked (name : String) (visible : List Url) (symbols : List Symbol) : List Symbol :=
  (symbols.filter (·.name == name)).mergeSort (mayPrecede visible)

end Symbol

end DiagramLinks
