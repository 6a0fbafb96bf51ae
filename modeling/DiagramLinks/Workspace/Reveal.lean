import DiagramLinks.Link
import DiagramLinks.Symbol.Resolution
import DiagramLinks.Workspace.State

namespace DiagramLinks

namespace Await

def operation : Await → Operation
  | storing _ _ => .storeActivation
  | askingNode _ => .askSelectedNode
  | attaching _ _ => .attachLink
  | searching _ _ => .findSymbols
  | opening _ _ => .openDocument
  | showing _ _ => .showDocument

/-- The call as the host gets it. -/
def call : Await → Call
  | storing d activated => .storeActivation d activated
  | askingNode d => .askSelectedNode d
  | attaching d l => .attachLink d (Link.ofLocation l).toJson
  | searching name _ => .findSymbols name
  | opening _ l => .openDocument l.uri
  | showing s l => .showDocument l.uri s.column true

end Await

namespace Workspace

/-- Calls a host and waits as long as it takes at the moment. -/
def ask (w : Workspace) (a : Await) : Workspace × Progress :=
  (w.call a.call, .waiting ⟨a, w.now + w.conduct.latency a.operation⟩)

def fail (w : Workspace) (h : HostFailure) : Workspace × Progress :=
  (w, .over (.error (.host h)))

/-- Starts to reveal a location under the settings of this moment. -/
def reveal (w : Workspace) (l : Location) : Workspace × Progress :=
  w.ask (.opening w.revealer.settings l)

def clear (w : Workspace) (h : Highlight) : Workspace :=
  w.call (.paint h.editor h.decoration [])

/-- Scrolls to a range and highlights it in place of the highlight before; the new one is retracted
after its time. A task that is spawned is polled before time passes, so its sleep begins here. -/
def highlight (w : Workspace) (s : Settings) (l : Location) : Workspace :=
  let editor := w.conduct.editorOf w.lastId l.uri s.column
  let decoration := w.conduct.decorationOf (w.lastId + 1)
  let new : Highlight := ⟨editor, decoration⟩
  let previous := w.revealer.active
  let w := w.call (.revealRange editor l.revealRange)
  let w := { w.call (.createDecoration decoration s.color) with lastId := w.lastId + 1 }
  let w := { w with revealer := { w.revealer with active := some new } }
  let w := match previous with
    | some h => w.clear h
    | none => w
  let w := w.call (.paint editor decoration [l.revealRange])
  let w := w.record (.highlighted new s l)
  w.spawn (.retraction new (w.now + s.duration.toNat))

/-- Takes a highlight back; it stops being the active one only if it still is. -/
def retract (w : Workspace) (h : Highlight) : Workspace :=
  let w :=
    if w.revealer.active = some h then { w with revealer := { w.revealer with active := none } } else w
  w.clear h

/-- Links a location to the selected node of a diagram and reveals it afterwards. -/
def linkLocation (w : Workspace) (d : DiagramNo) (l : Location) : Workspace × Progress :=
  w.ask (.attaching d l)

/-- Handles the selection of a node. Link data on the node decides alone; only without any the label
is looked up. -/
def handle (w : Workspace) (d : DiagramNo) (node : NodeSelection) : Workspace × Progress :=
  if w.isActivated d then
    match node.link with
    | some data =>
      match Location.ofJson data with
      | .ok l => w.reveal l
      | .error m => (w, .over (.error (.malformed m)))
    | none =>
      match Symbol.tag? node.label with
      | some name => w.ask (.searching name w.visible)
      | none => (w, .over (.ok ()))
  else (w, .over (.ok ()))

/-- Flips the activation of a diagram; without one nothing happens. -/
def flip (w : Workspace) (d : Option DiagramNo) : Workspace × Progress :=
  match d with
  | none => (w, .over (.ok ()))
  | some d =>
    match w.diagrams[d]? with
    | none => (w, .over (.ok ()))
    | some diagram =>
      let activated := !w.isActivated d
      (w.note (.turned diagram.id activated)).ask (.storing d activated)

def selectedLocation (w : Workspace) : Except Problem Location :=
  match w.service.focus.editor with
  | none => .error (.unmet .textEditor)
  | some (editor, uri) =>
    match w.selections.lookup editor with
    | none => .error (.unmet .textEditor)
    | some range => if range.isEmpty then .error (.unmet .selection) else .ok ⟨uri, range⟩

/-- The diagram that had the focus last, if it is still open. -/
def lastActiveDiagram? (w : Workspace) : Option DiagramNo :=
  w.service.focus.lastActive.bind fun id => w.service.registry.lookup id

def link (w : Workspace) : Workspace × Progress :=
  if w.service.settings.experimental then
    match w.lastActiveDiagram? with
    | none => (w, .over (.error (.unmet .activeDiagram)))
    | some d => w.ask (.askingNode d)
  else (w, .over (.error (.unmet .featureEnabled)))

def answerNode (w : Workspace) (d : DiagramNo) : Workspace × Progress :=
  if (w.diagrams[d]?.map Diagram.hasNode).getD false then
    match w.selectedLocation with
    | .ok l => w.linkLocation d l
    | .error p => (w, .over (.error p))
  else (w, .over (.error (.unmet .selectedNode)))

/-- The host of a diagram attaches a link to its selected node, if there is one. -/
def answerLink (w : Workspace) (d : DiagramNo) (l : Location) : Workspace × Progress :=
  match w.diagrams[d]? with
  | none => w.fail .noNode
  | some diagram =>
    if diagram.hasNode then
      let w := w.record (.carriedOut (Await.attaching d l).call)
      (w.note (.linked l diagram.id)).reveal l
    else w.fail .noNode

/-- The store of a diagram takes an activation, unless it is closed. -/
def answerStore (w : Workspace) (d : DiagramNo) (activated : Bool) : Workspace × Progress :=
  match w.activation? d with
  | none => w.fail .storeClosed
  | some activation =>
    if activation.live then (w.modifyActivation d (·.write activated), .over (.ok ()))
    else w.fail .storeClosed

/-- The symbol index answers a query; the best symbol of exactly that name is revealed. -/
def answerSymbols (w : Workspace) (name : String) (visible : List Url) : Workspace × Progress :=
  let w := w.record (.carriedOut (.findSymbols name))
  if w.conduct.neverFinds then w.fail .noIndex
  else
    match Symbol.best name visible (Symbol.matching name w.symbols) with
    | .found _ l => w.reveal l
    | _ => (w, .over (.error (.noSymbol name)))

/-- A host answers: it refuses, fails or does what was asked, and the activity goes on to its next
call or its end. -/
def answer (w : Workspace) (a : Await) : Workspace × Progress :=
  if w.conduct.refuses a.operation then w.fail (.refused a.operation)
  else
    match a with
    | .storing d activated => w.answerStore d activated
    | .askingNode d => w.answerNode d
    | .attaching d l => w.answerLink d l
    | .searching name visible => w.answerSymbols name visible
    | .opening s l =>
      if w.conduct.neverOpens then w.fail (.cannotOpen l.uri)
      else (w.record (.carriedOut a.call)).ask (.showing s l)
    | .showing s l => ((w.record (.carriedOut a.call)).highlight s l, .over (.ok ()))

end Workspace

end DiagramLinks
