import DiagramLinks.Workspace.State

namespace DiagramLinks

/-- Puts a value under a key: a known key keeps its place, a new one goes to the end. -/
def Service.insert (registry : List (Url × DiagramNo)) (id : Url) (d : DiagramNo) :
    List (Url × DiagramNo) :=
  match registry with
  | [] => [(id, d)]
  | (key, old) :: rest =>
    if key = id then (key, d) :: rest else (key, old) :: insert rest id d

/-- A service that starts: its settings are noted, and the status indicator's task is spawned. -/
def Workspace.new (settings : Settings) (visible : List Url) (symbols : List Symbol)
    (conduct : Conduct) : Workspace :=
  let (scope, token) := Scope.new.issue Scope.root
  let w : Workspace :=
    { now := 0, history := [], diagrams := [], stores := []
      service :=
        { settings, focus := ⟨none, none, none⟩, registry := [], active := .new none
          scope := scope.track (fun _ => false) 0, held := true }
      revealer := ⟨settings, none⟩, visible, selections := [], lastId := 0, symbols, conduct
      tasks := [] }
  (w.note (.settingsLoaded .defaults settings)).spawn (.status token .starting)

/-- A service among hosts that are prompt. -/
def Workspace.initial (settings : Settings) (visible : List Url) (symbols : List Symbol)
    (neverOpens neverFinds : Bool) : Workspace :=
  .new settings visible symbols (.prompt neverOpens neverFinds)

namespace Workspace

def updateService (w : Workspace) (f : Service → Service) : Workspace :=
  { w with service := f w.service }

def abortAll (w : Workspace) (tasks : List TaskNo) : Workspace :=
  tasks.foldl abort w

def addStore (w : Workspace) (activated : Bool) : Workspace × StoreNo :=
  ({ w with stores := w.stores ++ [.new activated] }, w.stores.length)

/-- A diagram that is not there has no store to share; a new one stands in for it. -/
def chooseStore (w : Workspace) : StoreChoice → Workspace × StoreNo
  | .fresh activated => w.addStore activated
  | .shared d =>
    match w.diagrams[d]? with
    | some diagram => (w, diagram.store)
    | none => w.addStore false

/-- Opens a diagram document and starts its session, which its scope owns. -/
def openDiagram (w : Workspace) (id : Url) (choice : StoreChoice) (hasNode : Bool) : Workspace :=
  let (w, store) := w.chooseStore choice
  let (scope, token) := Scope.new.issue Scope.root
  let scope := scope.track (fun _ => false) w.tasks.length
  let diagram : Diagram :=
    { id, store, scope, hasNode, inbox := [], sending := true, receiving := true }
  let session : Activity := .session w.diagrams.length token .starting
  { w with diagrams := w.diagrams ++ [diagram] }.spawn session

/-- Cancels and aborts the session of a diagram. -/
def releaseSession (w : Workspace) (d : DiagramNo) : Workspace :=
  match w.diagrams[d]? with
  | none => w
  | some diagram =>
    let (scope, tasks) := diagram.scope.release
    (w.modifyDiagram d fun diagram => { diagram with scope }).abortAll tasks

def isClosed (w : Workspace) (d : DiagramNo) : Bool :=
  (w.diagrams[d]?.map fun diagram => diagram.scope.isReleased).getD true

/-- Closes the session of a diagram; only the first time is noted. -/
def closeSession (w : Workspace) (d : DiagramNo) : Workspace :=
  match w.diagrams[d]? with
  | none => w
  | some diagram =>
    let w := if diagram.scope.isReleased then w else w.note (.sessionClosing diagram.id)
    w.releaseSession d

/-- Registers the session of a diagram. One that was registered under the same name is closed, and
if its diagram was active the new one takes its place. -/
def register (w : Workspace) (id : Url) (d : DiagramNo) : Workspace :=
  let replaced := w.service.registry.lookup id
  let w := w.updateService fun s => { s with registry := Service.insert s.registry id d }
  match replaced with
  | none => w
  | some old =>
    let w := w.closeSession old
    if w.service.focus.active = some id then
      w.updateService fun s => { s with active := s.active.replace (some d) }
    else w

/-- Closes a registered diagram and forgets it; tells whether there was one. -/
def closeDiagram (w : Workspace) (id : Url) : Workspace × Bool :=
  match w.service.registry.lookup id with
  | none => (w, false)
  | some d =>
    let w := w.updateService fun s => { s with registry := s.registry.filter (·.1 != id) }
    let w := w.closeSession d
    let focus := w.service.focus
    let lastActive := if focus.lastActive = some id then none else focus.lastActive
    if focus.active = some id then
      (w.updateService fun s =>
        { s with focus := { focus with active := none, lastActive }, active := s.active.replace none },
        true)
    else (w.updateService fun s => { s with focus := { focus with lastActive } }, true)

/-- The focus moves to a diagram or away from all; a diagram that is not registered counts as none.
Every move counts as a change. -/
def focusDiagram (w : Workspace) (id : Option Url) : Workspace :=
  let target := id.bind fun id => (w.service.registry.lookup id).map fun d => (id, d)
  w.updateService fun s =>
    let focus := match target with
      | none => { s.focus with active := none }
      | some (id, _) => { s.focus with active := some id, lastActive := some id }
    { s with focus, active := s.active.replace (target.map (·.2)) }

/-- The focus moves to a text editor; when it leaves one that is still the last. -/
def focusEditor (w : Workspace) (editor : Option (EditorId × Url)) : Workspace :=
  match editor with
  | none => w
  | some e => w.updateService fun s => { s with focus := { s.focus with editor := some e } }

/-- A diagram becomes the active one, or none does, as long as any can; one that is not there counts as
none. Every time counts as a change. -/
def setActive (w : Workspace) (d : Option DiagramNo) : Workspace :=
  if w.service.active.live then
    w.updateService fun s => { s with active := s.active.replace (d.filter (· < w.diagrams.length)) }
  else w

/-- No diagram becomes active any more. -/
def endActive (w : Workspace) : Workspace :=
  w.updateService fun s => { s with active := s.active.close }

def cancelStatus (w : Workspace) : Workspace :=
  w.updateService fun s => { s with scope := s.scope.cancel Scope.root }

def setRevealSettings (w : Workspace) (settings : Settings) : Workspace :=
  { w with revealer := { w.revealer with settings } }

/-- Changes the settings; reveals get them when something changes that they use. -/
def setSettings (w : Workspace) (settings : Settings) : Workspace :=
  let differ := w.service.settings.revealsDiffer settings
  let w := w.updateService fun s => { s with settings }
  if differ then w.setRevealSettings settings else w

/-- Reads the settings of the editor; without a section for links nothing changes. -/
def readSettings (w : Workspace) (settings : Json) : Workspace × Bool :=
  match Settings.ofJson? settings with
  | none => (w.note .noSection, false)
  | some s =>
    let w := if Settings.asksColumnZero settings then w.note .columnZero else w
    ((w.note (.settingsLoaded .editor s)).setSettings s, true)

/-- Ends the service: every session is released, and so is the status indicator. -/
def retire (w : Workspace) : Workspace :=
  let w := w.service.registry.foldl (fun w entry => w.releaseSession entry.2) w
  let (scope, tasks) := w.service.scope.release
  (w.updateService fun s => { s with scope, registry := [], active := s.active.close }).abortAll tasks

end Workspace

/-- Whether a request keeps the service in use while it runs. -/
def Request.usesService : Request → Bool
  | toggle => true
  | link => true
  | execute _ => true
  | command _ => true
  | _ => false

/-- Whether a task keeps the service in use. -/
def Task.usesService (t : Task) : Bool :=
  match t.activity with
  | .job request _ _ => request.usesService && !t.ended
  | _ => false

namespace Workspace

/-- Ends the service once nobody holds it and no action uses it. -/
def retireIfUnused (w : Workspace) : Workspace :=
  if w.service.held || !w.service.active.live || w.tasks.any Task.usesService then w else w.retire

def dropService (w : Workspace) : Workspace :=
  (w.updateService fun s => { s with held := false }).retireIfUnused

end Workspace

end DiagramLinks
