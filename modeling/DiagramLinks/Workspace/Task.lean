import DiagramLinks.Scope
import DiagramLinks.Settings
import DiagramLinks.Workspace.Event

namespace DiagramLinks

/-- A host call that an activity rests in, with all that it needs to go on. -/
inductive Await
  | storing (diagram : DiagramNo) (activated : Bool)
  | askingNode (diagram : DiagramNo)
  | attaching (diagram : DiagramNo) (location : Location)
  | searching (name : String) (visible : List Url)
  | opening (settings : Settings) (location : Location)
  | showing (settings : Settings) (location : Location)
deriving Repr, DecidableEq

/-- A host call in flight and the time of its answer. -/
structure Pending where
  await : Await
  due : Nat
deriving Repr, DecidableEq

/-- Where an activity stands after a step. -/
inductive Progress
  | waiting (p : Pending)
  | over (result : Except Problem Unit)

inductive StatusPoint
  | starting
  /-- No diagram is active. -/
  | hidden (seen : Nat)
  /-- Watches the activation of a diagram, until its store is known to be closed. -/
  | watching (seen : Nat) (diagram : DiagramNo) (seenActivation : Nat) (storeOpen : Bool)
deriving Repr, DecidableEq

inductive ModePoint
  | starting
  | setting (seen : Nat) (enabled : Bool) (due : Nat)
  | resting (seen : Nat)
deriving Repr, DecidableEq

inductive SessionPoint
  | starting
  /-- Waits for an event; `bound` once the diagram follows its activation. -/
  | idle (bound : Bool)
  | handling (bound : Bool) (p : Pending)
deriving Repr, DecidableEq

inductive JobPoint
  | starting
  | waiting (p : Pending)
  | ended (result : Except Problem Unit)

/-- What a task does and where it rests. It waits only for a host, a change, an event or a point in
time. -/
inductive Activity
  /-- Keeps the status indicator in step with the active diagram. -/
  | status (token : Token) (point : StatusPoint)
  /-- Keeps a diagram's selection mode in step with its activation. -/
  | selectionMode (diagram : DiagramNo) (token : Token) (point : ModePoint)
  /-- Handles the events of a diagram. -/
  | session (diagram : DiagramNo) (token : Token) (point : SessionPoint)
  /-- Clears a highlight when its time is up. -/
  | retraction (highlight : Highlight) (due : Nat)
  /-- A request; with a tag it runs on its own, without one its caller waits for it. -/
  | job (request : Request) (tag : Option String) (point : JobPoint)

structure Task where
  activity : Activity
  /-- It is to be dropped instead of run. -/
  aborted : Bool
  ended : Bool

/-- The time a task waits for, if it waits for one. -/
def Activity.due? : Activity → Option Nat
  | .status _ _ => none
  | .selectionMode _ _ (.setting _ _ due) => some due
  | .selectionMode _ _ _ => none
  | .session _ _ (.handling _ p) => some p.due
  | .session _ _ _ => none
  | .retraction _ due => some due
  | .job _ _ (.waiting p) => some p.due
  | .job _ _ _ => none

end DiagramLinks
