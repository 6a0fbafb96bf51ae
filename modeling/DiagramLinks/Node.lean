import DiagramLinks.Json

namespace DiagramLinks

/-- Whether a value counts as link data: null, false, zero and the empty text do not. -/
def Json.isPresent : Json → Bool
  | null => false
  | bool b => b
  | number n => n.toDouble != 0.0
  | string s => !s.isEmpty
  | array _ => true
  | object _ => true

/-- A selected node: its label, and the link data it carries. -/
structure NodeSelection where
  label : String
  link : Option Json

/-- Data that does not count is dropped. -/
def NodeSelection.ofData (label : String) (data : Option Json) : NodeSelection :=
  ⟨label, data.filter Json.isPresent⟩

inductive DiagramEvent
  | selected (node : NodeSelection)
  /-- The diagram takes commands from now on. -/
  | ready

end DiagramLinks
