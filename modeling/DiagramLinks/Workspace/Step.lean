import DiagramLinks.Workspace.Reveal
import DiagramLinks.Workspace.Service

namespace DiagramLinks.Workspace

/-- The failure of an executed action is noted and shown. -/
def conclude (w : Workspace) (r : Request) (result : Except Problem Unit) : Workspace :=
  match r.shownAction?, result with
  | some action, .error p => (w.note (.actionFailed action p)).call (.showError p.message)
  | _, _ => w

def perform (w : Workspace) : Action → Workspace × Progress
  | .toggleActivation => w.flip w.service.active.value
  | .linkSelectedNode => w.link

def start (w : Workspace) : Request → Workspace × Progress
  | .activate d activated => w.ask (.storing d activated)
  | .flip d => w.flip d
  | .toggle => w.perform .toggleActivation
  | .link => w.perform .linkSelectedNode
  | .execute action => w.perform action
  | .command id =>
    match Action.ofCommandId? id with
    | some action => w.perform action
    | none => (w, .over (.ok ()))
  | .handle d node => w.handle d node
  | .linkLocation d l => w.linkLocation d l
  | .reveal l => w.reveal l

def continueJob (w : Workspace) (t : TaskNo) (r : Request) (tag : Option String) :
    Progress → Workspace
  | .waiting p => w.moveTo t (.job r tag (.waiting p))
  | .over result =>
    let w := ((w.conclude r result).moveTo t (.job r tag (.ended result))).finish t
    (w.record (.finished r tag result)).retireIfUnused

def stepJob (w : Workspace) (t : TaskNo) (r : Request) (tag : Option String) : JobPoint → Workspace
  | .starting => let (w, p) := w.start r; w.continueJob t r tag p
  | .waiting p => let (w, p) := w.answer p.await; w.continueJob t r tag p
  | .ended _ => w

/-- The handling of an event goes on; a failure is shown and does not end the session. -/
def continueSession (w : Workspace) (t : TaskNo) (d : DiagramNo) (token : Token) (bound : Bool) :
    Progress → Workspace
  | .waiting p => w.moveTo t (.session d token (.handling bound p))
  | .over (.ok ()) => (w.record (.handled d (.ok ()))).moveTo t (.session d token (.idle bound))
  | .over (.error p) =>
    let w := match w.diagrams[d]? with
      | some diagram => w.note (.eventFailed diagram.id p)
      | none => w
    let w := (w.call (.showError p.message)).record (.handled d (.error p))
    w.moveTo t (.session d token (.idle bound))

/-- The session takes no more events, and all that it started below its token is cancelled. -/
def endSession (w : Workspace) (t : TaskNo) (d : DiagramNo) (token : Token) : Workspace :=
  (w.modifyDiagram d fun diagram =>
    { diagram with scope := diagram.scope.cancel token, receiving := false, inbox := [] }).finish t

/-- An idle session ends when it is cancelled, or when no event is left and none can come. The first
`ready` event binds the diagram's selection mode to its activation. -/
def stepIdle (w : Workspace) (t : TaskNo) (d : DiagramNo) (token : Token) (bound : Bool) : Workspace :=
  match w.diagrams[d]? with
  | none => w.finish t
  | some diagram =>
    if diagram.scope.isCancelled token then w.endSession t d token
    else
      match diagram.inbox with
      | [] => if diagram.sending then w else w.endSession t d token
      | event :: rest =>
        let w := w.modifyDiagram d fun diagram => { diagram with inbox := rest }
        let w := w.record (.taken d event)
        match event with
        | .ready =>
          if bound then w.record (.handled d (.ok ()))
          else
            let (scope, child) := diagram.scope.issue token
            let w := w.modifyDiagram d fun diagram => { diagram with scope }
            let w := (w.spawn (.selectionMode d child .starting)).record (.handled d (.ok ()))
            w.moveTo t (.session d token (.idle true))
        | .selected node => let (w, p) := w.handle d node; w.continueSession t d token bound p

def stepSession (w : Workspace) (t : TaskNo) (d : DiagramNo) (token : Token) :
    SessionPoint → Workspace
  | .starting =>
    let w := match w.diagrams[d]? with
      | some diagram => w.note (.sessionOpened diagram.id)
      | none => w
    w.moveTo t (.session d token (.idle false))
  | .idle bound => w.stepIdle t d token bound
  | .handling bound p => let (w, p) := w.answer p.await; w.continueSession t d token bound p

def indicate (w : Workspace) (i : Indicator) : Workspace := w.record (.indicated i)

def lookAtActive (w : Workspace) (t : TaskNo) (token : Token) : Workspace :=
  let active := w.service.active
  match active.value.bind fun d => (w.activation? d).map fun activation => (d, activation) with
  | none => (w.indicate .hidden).moveTo t (.status token (.hidden active.changes))
  | some (d, activation) =>
    (w.indicate (.ofActivation activation.value)).moveTo t
      (.status token (.watching active.changes d activation.changes true))

def stepStatus (w : Workspace) (t : TaskNo) (token : Token) : StatusPoint → Workspace
  | .starting => w.lookAtActive t token
  | .hidden seen =>
    if w.service.scope.isCancelled token then w.finish t
    else if w.service.active.isNews seen then w.lookAtActive t token
    else if w.service.active.live then w
    else w.finish t
  | .watching seen d seenActivation storeOpen =>
    if w.service.scope.isCancelled token then w.finish t
    else if w.service.active.isNews seen then w.lookAtActive t token
    else if !w.service.active.live then w.finish t
    else
      match w.activation? d with
      | none => w
      | some activation =>
        let showNow (storeOpen : Bool) : Workspace :=
          (w.indicate (.ofActivation activation.value)).moveTo t
            (.status token (.watching seen d activation.changes storeOpen))
        if !storeOpen then w
        else if activation.isNews seenActivation then showNow true
        else if activation.live then w
        else showNow false

def setMode (w : Workspace) (t : TaskNo) (d : DiagramNo) (token : Token) (activation : Watched Bool) :
    Workspace :=
  (w.call (.setSelectionMode d activation.value)).moveTo t
    (.selectionMode d token (.setting activation.changes activation.value
      (w.now + w.conduct.latency .setSelectionMode)))

def stepMode (w : Workspace) (t : TaskNo) (d : DiagramNo) (token : Token) (point : ModePoint) :
    Workspace :=
  match w.diagrams[d]?, w.activation? d with
  | some diagram, some activation =>
    match point with
    | .starting => w.setMode t d token activation
    | .setting seen enabled _ =>
      let w :=
        if w.conduct.refuses .setSelectionMode then
          w.note (.modeFailed diagram.id (.refused .setSelectionMode))
        else w.record (.carriedOut (.setSelectionMode d enabled))
      w.moveTo t (.selectionMode d token (.resting seen))
    | .resting seen =>
      if diagram.scope.isCancelled token then w.finish t
      else if activation.isNews seen then w.setMode t d token activation
      else if activation.live then w
      else w.finish t
  | _, _ => w.finish t

/-- An aborted task is dropped where it stands; a session then takes no more events. -/
def drop (w : Workspace) (t : TaskNo) : Activity → Workspace
  | .session d _ _ =>
    (w.modifyDiagram d fun diagram => { diagram with receiving := false, inbox := [] }).finish t
  | _ => w.finish t

/-- Whether an activity can go on. -/
def canRun (w : Workspace) : Activity → Bool
  | .status _ .starting => true
  | .status token (.hidden seen) =>
    w.service.scope.isCancelled token || w.service.active.isNews seen || !w.service.active.live
  | .status token (.watching seen d seenActivation storeOpen) =>
    w.service.scope.isCancelled token || w.service.active.isNews seen || !w.service.active.live
      || (storeOpen && ((w.activation? d).map fun activation =>
        activation.isNews seenActivation || !activation.live).getD false)
  | .selectionMode _ _ .starting => true
  | .selectionMode _ _ (.setting _ _ due) => due ≤ w.now
  | .selectionMode d token (.resting seen) =>
    (w.diagrams[d]?.map fun diagram => diagram.scope.isCancelled token).getD true
      || ((w.activation? d).map fun activation => activation.isNews seen || !activation.live).getD true
  | .session _ _ .starting => true
  | .session d token (.idle _) =>
    (w.diagrams[d]?.map fun diagram => diagram.scope.isCancelled token
      || !diagram.inbox.isEmpty || !diagram.sending).getD true
  | .session _ _ (.handling _ p) => p.due ≤ w.now
  | .retraction _ due => due ≤ w.now
  | .job _ _ .starting => true
  | .job _ _ (.waiting p) => p.due ≤ w.now
  | .job _ _ (.ended _) => false

/-- A task is ready when what it waits for is there, and an aborted one to be dropped. -/
def isReady (w : Workspace) (t : TaskNo) : Bool :=
  match w.tasks[t]? with
  | none => false
  | some task => !task.ended && (task.aborted || w.canRun task.activity)

/-- One step of a task, to the next point where it may have to wait; nothing happens if it is not
ready. -/
def step (w : Workspace) (t : TaskNo) : Workspace :=
  match w.tasks[t]? with
  | none => w
  | some task =>
    if !w.isReady t then w
    else if task.aborted then w.drop t task.activity
    else
      match task.activity with
      | .status token point => w.stepStatus t token point
      | .selectionMode d token point => w.stepMode t d token point
      | .session d token point => w.stepSession t d token point
      | .retraction h _ => (w.retract h).finish t
      | .job r tag point => w.stepJob t r tag point

end DiagramLinks.Workspace
