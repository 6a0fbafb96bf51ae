import DiagramLinks.Indicator
import DiagramLinks.Location
import DiagramLinks.Node
import DiagramLinks.Problem

namespace DiagramLinks

/-- Diagram documents are numbered in the order of their opening. -/
abbrev DiagramNo := Nat

/-- What a user or a host asks for. -/
inductive Request
  | activate (diagram : DiagramNo) (activated : Bool)
  /-- Flips the activation of a diagram, if there is one. -/
  | flip (diagram : Option DiagramNo)
  | toggle
  | link
  | execute (action : Action)
  | command (id : String)
  | handle (diagram : DiagramNo) (node : NodeSelection)
  | linkLocation (diagram : DiagramNo) (location : Location)
  | reveal (location : Location)

inductive Outcome
  | done
  | failed (problem : Problem)
  /-- A host failed that was called directly. -/
  | hostFailed (failure : HostFailure)
  /-- Whether the command was known. -/
  | known (b : Bool)

def Outcome.ofResult : Except Problem Unit → Outcome
  | .ok () => .done
  | .error p => .failed p

/-- The outcome of a request that only hands over to a host. -/
def Outcome.ofHostResult : Except Problem Unit → Outcome
  | .error (.host h) => .hostFailed h
  | result => .ofResult result

/-- A command tells only whether it is known. -/
def Request.outcome (r : Request) (result : Except Problem Unit) : Outcome :=
  match r with
  | activate _ _ => .ofHostResult result
  | flip _ => .ofHostResult result
  | reveal _ => .ofHostResult result
  | command id => .known (Action.ofCommandId? id).isSome
  | _ => .ofResult result

/-- The action whose failure a request shows to the user. -/
def Request.shownAction? : Request → Option Action
  | execute action => some action
  | command id => Action.ofCommandId? id
  | _ => none

end DiagramLinks
