import DiagramLinks.Workspace.State

namespace DiagramLinks.Workspace

/-- A diagram sends an event to its session; tells whether the session still takes it. -/
def send (w : Workspace) (d : DiagramNo) (e : DiagramEvent) : Workspace × Bool :=
  match w.diagrams[d]? with
  | none => (w, false)
  | some diagram =>
    if diagram.sending && diagram.receiving then
      let w := w.modifyDiagram d fun diagram => { diagram with inbox := diagram.inbox ++ [e] }
      (w.record (.sent d e), true)
    else (w, false)

def endEvents (w : Workspace) (d : DiagramNo) : Workspace :=
  w.modifyDiagram d fun diagram => { diagram with sending := false }

def setNode (w : Workspace) (d : DiagramNo) (hasNode : Bool) : Workspace :=
  w.modifyDiagram d fun diagram => { diagram with hasNode }

/-- The activation of a diagram stays readable and does not change any more. -/
def closeStore (w : Workspace) (d : DiagramNo) : Workspace :=
  w.modifyActivation d Watched.close

/-- The selection of an editor that the user opened or already has. -/
def select (w : Workspace) (editor : EditorId) (range : Range) : Workspace :=
  { w with selections := (editor, range) :: w.selections }

/-- The numbers of the editors that users open lie above those of the view columns. -/
def firstEditor : EditorId := 1000

/-- The user opens an editor; its number comes with it. -/
def addEditor (w : Workspace) (range : Range) : Workspace × EditorId :=
  let lastId := w.lastId + 1
  ({ w with lastId }.select (firstEditor + lastId) range, firstEditor + lastId)

def setVisible (w : Workspace) (visible : List Url) : Workspace :=
  { w with visible }

def setRefusal (w : Workspace) (operation : Operation) (on : Bool) : Workspace :=
  { w with conduct := { w.conduct with
    refuses := fun o => if o = operation then on else w.conduct.refuses o } }

def setLatency (w : Workspace) (operation : Operation) (milliseconds : Nat) : Workspace :=
  { w with conduct := { w.conduct with
    latency := fun o => if o = operation then milliseconds else w.conduct.latency o } }

end DiagramLinks.Workspace
