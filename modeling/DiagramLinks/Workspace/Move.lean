import DiagramLinks.Workspace.Hosts
import DiagramLinks.Workspace.Step

namespace DiagramLinks

inductive Move
  /-- A task takes a step, if it is ready. -/
  | step (t : TaskNo)
  /-- Time passes; a task that is due need not run at once. -/
  | wait (milliseconds : Nat)
  | request (r : Request) (tag : Option String)
  /-- Opens a diagram document, on the service or with a session of its own. -/
  | openDiagram (id : Url) (choice : StoreChoice) (hasNode onService : Bool)
  | closeDiagram (id : Url)
  | closeSession (d : DiagramNo)
  | dropSession (d : DiagramNo)
  | focusDiagram (id : Option Url)
  | focusEditor (editor : Option (EditorId × Url))
  | readSettings (settings : Json)
  | setSettings (settings : Settings)
  | setRevealSettings (settings : Settings)
  | dropService
  | send (d : DiagramNo) (e : DiagramEvent)
  | endEvents (d : DiagramNo)
  | setNode (d : DiagramNo) (hasNode : Bool)
  | closeStore (d : DiagramNo)
  | addEditor (range : Range)
  | select (editor : EditorId) (range : Range)
  | setVisible (visible : List Url)
  | setRefusal (operation : Operation) (on : Bool)
  | setLatency (operation : Operation) (milliseconds : Nat)

def Move.needsService : Move → Bool
  | request r _ => r.usesService
  | openDiagram _ _ _ onService => onService
  | closeDiagram _ => true
  | focusDiagram _ => true
  | focusEditor _ => true
  | readSettings _ => true
  | setSettings _ => true
  | dropService => true
  | _ => false

namespace Workspace

/-- Whether the service owns the session of a diagram; only it closes such a session. -/
def isRegistered (w : Workspace) (d : DiagramNo) : Bool :=
  w.service.registry.any (·.2 == d)

/-- What a move does when nothing stands against it. -/
def carryOut (w : Workspace) : Move → Workspace
  | .step t => w.step t
  | .wait milliseconds => { w with now := w.now + milliseconds }
  | .request r tag => w.spawn (.job r tag .starting)
  | .openDiagram id choice hasNode onService =>
    let opened := w.openDiagram id choice hasNode
    if onService then opened.register id w.diagrams.length else opened
  | .closeDiagram id => (w.closeDiagram id).1
  | .closeSession d => if w.isRegistered d then w else w.closeSession d
  | .dropSession d => if w.isRegistered d then w else w.releaseSession d
  | .focusDiagram id => w.focusDiagram id
  | .focusEditor editor => w.focusEditor editor
  | .readSettings settings => (w.readSettings settings).1
  | .setSettings settings => w.setSettings settings
  | .setRevealSettings settings => w.setRevealSettings settings
  | .dropService => w.dropService
  | .send d e => (w.send d e).1
  | .endEvents d => w.endEvents d
  | .setNode d hasNode => w.setNode d hasNode
  | .closeStore d => w.closeStore d
  | .addEditor range => (w.addEditor range).1
  | .select editor range => w.select editor range
  | .setVisible visible => w.setVisible visible
  | .setRefusal operation on => w.setRefusal operation on
  | .setLatency operation milliseconds => w.setLatency operation milliseconds

/-- Without anybody who holds the service, moves that need it do nothing. -/
def move (w : Workspace) (m : Move) : Workspace :=
  if m.needsService && !w.service.held then w else w.carryOut m

/-- The workspace after a run. Any list of moves is one, so ready tasks may step in any order. -/
def run (w : Workspace) (moves : List Move) : Workspace :=
  moves.foldl move w

end Workspace

end DiagramLinks
