namespace DiagramLinks

inductive Action
  | toggleActivation
  | linkSelectedNode
deriving Repr, DecidableEq

namespace Action

def all : List Action := [toggleActivation, linkSelectedNode]

/-- The name under which the editor knows the action. -/
def commandId : Action → String
  | toggleActivation => "codeLink.toggleActivation"
  | linkSelectedNode => "codeLink.linkCodeWithSelectedNode"

def ofCommandId? (id : String) : Option Action :=
  all.find? (·.commandId == id)

end Action

structure Indicator where
  text : String
  visible : Bool
  /-- What a click on the indicator does. -/
  onClick : Action
deriving Repr, DecidableEq

namespace Indicator

def hidden : Indicator :=
  ⟨"", false, .toggleActivation⟩

def ofActivation (activated : Bool) : Indicator :=
  let marker := if activated then "$(circle-filled)" else "$(circle-outline)"
  ⟨s!"$(link) {marker} Code Link", true, .toggleActivation⟩

def ofState : Option Bool → Indicator
  | some activated => ofActivation activated
  | none => hidden

end Indicator

end DiagramLinks
