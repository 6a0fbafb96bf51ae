import DiagramLinks.Script

namespace DiagramLinks.Script.Bindings

inductive Step
  | start
  /-- Makes a diagram the active one, or none. -/
  | setActive (diagram : Option String)
  | setActivation (diagram : String) (activated : Bool)
  | flip (diagram : Option String)
  | closeStore (diagram : String)
  /-- Binds the selection mode of a diagram to its activation, once more. -/
  | bindMode (diagram : String)
  | refuseModes (on : Bool)
  /-- No diagram becomes active any more. -/
  | endActive
  | cancelStatus
  /-- Cancels the bindings of all selection modes, also of later ones. -/
  | cancelModes
  | unknown (name : String)
deriving Repr, DecidableEq

def addDiagram (w : Workspace) (id : Url) (activated : Bool) : Workspace :=
  let (w, store) := w.addStore activated
  let diagram : Diagram :=
    { id, store, scope := .new, inbox := [], sending := false, receiving := false
      hasNode := false }
  { w with diagrams := w.diagrams ++ [diagram] }

/-- The diagrams of a script, each with its name and activation, and the name of the active one. -/
def initial (diagrams : List (String × Url × Bool)) (active : Option String) :
    Except StepError State := do
  let w := Workspace.initial .default [] [] false false
  let w := diagrams.foldl (fun w (_, id, activated) => addDiagram w id activated) w
  let s : State := { State.start w with names := diagrams.map (·.1) }
  let active ← active.mapM s.diagram
  return s.update fun w => w.updateService fun service => { service with active := .new active }

def bindMode (w : Workspace) (d : DiagramNo) : Workspace :=
  match w.diagrams[d]? with
  | none => w
  | some diagram =>
    let (scope, token) := diagram.scope.issue Scope.root
    (w.modifyDiagram d fun diagram => { diagram with scope }).spawn
      (.selectionMode d token .starting)

def cancelScope (diagram : Diagram) : Diagram :=
  { diagram with scope := diagram.scope.cancel Scope.root }

def perform (s : State) : Step → Except StepError (State × Answer)
  | .start => .ok (s, .nothing)
  | .setActive name => do
    let d ← name.mapM s.diagram
    return (s.update (·.setActive d), .nothing)
  | .setActivation name activated => do
    let d ← s.diagram name
    return s.await (.activate d activated)
  | .flip name => do
    let d ← name.mapM s.diagram
    return s.await (.flip d)
  | .closeStore name => Script.perform s (.closeStore name)
  | .bindMode name => do
    let d ← s.diagram name
    return (s.update fun w => bindMode w d, .nothing)
  | .refuseModes on => Script.perform s (.setRefusal .setSelectionMode on)
  | .endActive =>
    let live := s.workspace.service.active.live
    .ok (s.update (·.endActive), .flag live)
  | .cancelStatus => .ok (s.update (·.cancelStatus), .nothing)
  | .cancelModes =>
    .ok (s.update fun w => { w with diagrams := w.diagrams.map cancelScope }, .nothing)
  | .unknown name => .error (.unknownStep name)

def isBinding (task : Task) : Bool :=
  match task.activity with
  | .status _ _ => true
  | .selectionMode _ _ _ => true
  | _ => false

structure Report where
  answer : Answer
  entries : List Entry
  /-- Which bindings have ended, in the order of their start. -/
  finished : List Bool

def run (s : State) : List Step → State × List Report
  | [] => (s, [])
  | step :: rest =>
    let (s, answer) := match perform s step with
      | .ok (s, answer) => (s, answer)
      | .error e => (s, .error e)
    let s := { s with schedule := s.schedule.settle }
    let w := s.workspace
    let report : Report :=
      ⟨answer, (w.history.take (w.history.length - s.reported)).reverse,
        (w.tasks.filter isBinding).map Task.ended⟩
    let (s, reports) := run { s with reported := w.history.length } rest
    (s, report :: reports)

end DiagramLinks.Script.Bindings
