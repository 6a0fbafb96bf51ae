import DiagramLinks.Script.Step
import DiagramLinks.Url.Described
import DiagramLinks.Workspace.Records
import DiagramLinks.Workspace.Schedule

namespace DiagramLinks

def Workspace.described (w : Workspace) (d : DiagramNo) : Option String :=
  w.diagrams[d]?.map fun diagram =>
    "DiagramDocument \x7b id: " ++ diagram.id.described ++ ", code_link_activated: "
      ++ toString (w.isActivated d) ++ " \x7d"

namespace Script

structure State where
  schedule : Schedule
  /-- The names of the diagrams, by number. -/
  names : List String
  /-- Sessions outside the service that are still held. -/
  lone : List DiagramNo
  /-- Editors by name, the latest first. -/
  editors : List (String × EditorId × Url)
  /-- How many entries of the history were reported. -/
  reported : Nat

namespace State

def start (w : Workspace) : State :=
  ⟨(Schedule.ofWorkspace w).refresh, [], [], [], 0⟩

def workspace (s : State) : Workspace := s.schedule.workspace

def update (s : State) (f : Workspace → Workspace) : State :=
  { s with schedule := s.schedule.update f }

def move (s : State) (m : Move) : State :=
  s.update fun w => w.move m

/-- Carries out a request and waits for its end. -/
def await (s : State) (r : Request) : State × Answer :=
  let (schedule, outcome) := s.schedule.await r
  ({ s with schedule }, match outcome with
    | some o => .outcome o
    | none => .nothing)

def updateWith {α : Type} (s : State) (f : Workspace → Workspace × α) : State × α :=
  let (w, a) := f s.workspace
  (s.update fun _ => w, a)

/-- The latest diagram of a name. -/
def diagram (s : State) (name : String) : Except StepError DiagramNo :=
  match (List.range s.names.length).reverse.find? (fun d => s.names[d]? == some name) with
  | some d => .ok d
  | none => .error (.noDiagram name)

def editor (s : State) (name : String) : Except StepError (EditorId × Url) :=
  match s.editors.lookup name with
  | some e => .ok e
  | none => .error (.noEditor name)

/-- Steps that need the service fail once it was dropped. -/
def needService (s : State) : Except StepError Unit :=
  if s.workspace.service.held then .ok () else .error .noService

end State

def url (text : String) : Except StepError Url :=
  (Url.parse text).mapError .badUri

def Wish.toRequest (s : State) : Wish → Except StepError Request
  | activate d activated => do return .activate (← s.diagram d) activated
  | toggle => do s.needService; return .toggle
  | link => do s.needService; return .link
  | execute action => do s.needService; return .execute action
  | command id => do s.needService; return .command id
  | handle d node => do return .handle (← s.diagram d) node
  | linkLocation d uri range => do return .linkLocation (← s.diagram d) ⟨← url uri, range⟩
  | reveal uri range => do return .reveal ⟨← url uri, range⟩

def perform (s : State) : Step → Except StepError (State × Answer)
  | .openDiagram name id activated hasNode lone => do
    let id ← url id
    if !lone then s.needService
    let d := s.workspace.diagrams.length
    let s := s.move (.openDiagram id (.fresh activated) hasNode !lone)
    return ({ s with names := s.names ++ [name], lone := if lone then d :: s.lone else s.lone },
      .text id.text)
  | .event name e => do
    let d ← s.diagram name
    let (s, received) := s.updateWith fun w => w.send d e
    return (s, .flag received)
  | .endEvents name => do
    let d ← s.diagram name
    let sending := (s.workspace.diagrams[d]?.map Diagram.sending).getD false
    return (s.move (.endEvents d), .flag sending)
  | .closeDiagram id => do
    let id ← url id
    s.needService
    let (s, found) := s.updateWith fun w => w.closeDiagram id
    return (s, .flag found)
  | .closeSession name => do
    let d ← s.diagram name
    if s.lone.contains d then
      let before := s.workspace.isClosed d
      let s := s.move (.closeSession d)
      return (s, .flags before (s.workspace.isClosed d))
    else return (s, .nothing)
  | .dropSession name => do
    let d ← s.diagram name
    if s.lone.contains d then
      let s := s.move (.dropSession d)
      return ({ s with lone := s.lone.filter (· != d) }, .flag true)
    else return (s, .flag false)
  | .isSessionClosed name => do
    let d ← s.diagram name
    return (s, if s.lone.contains d then .flag (s.workspace.isClosed d) else .nothing)
  | .dropService => do
    let held := s.workspace.service.held
    return (s.move .dropService, .flag held)
  | .focusDiagram id => do
    s.needService
    let id ← id.mapM url
    return (s.move (.focusDiagram id), .nothing)
  | .addEditor name uri selection => do
    let uri ← url uri
    let (s, id) := s.updateWith fun w => w.addEditor selection
    return ({ s with editors := (name, id, uri) :: s.editors }, .number id)
  | .select name selection => do
    let (id, _) ← s.editor name
    return (s.move (.select id selection), .nothing)
  | .focusEditor target => do
    s.needService
    let e ← match target with
      | .named name => (s.editor name).map some
      | .gone id uri => do pure (some (id, ← url uri))
      | .none => pure none
    return (s.move (.focusEditor e), .nothing)
  | .setNode name selected => do
    let d ← s.diagram name
    return (s.move (.setNode d selected), .nothing)
  | .describe name => do
    let d ← s.diagram name
    return (s, .text ((s.workspace.described d).getD ""))
  | .closeStore name => do
    let d ← s.diagram name
    return (s.move (.closeStore d), .nothing)
  | .request tag wish => do
    let request ← wish.toRequest s
    match tag with
    | some tag => return (s.move (.request request (some tag)), .text "spawned")
    | none => return s.await request
  | .readSettings settings => do
    s.needService
    let (s, found) := s.updateWith fun w => w.readSettings settings
    return (s, .flag found)
  | .setSettings patch => do
    s.needService
    let s := s.move (.setSettings (patch.apply s.workspace.service.settings))
    return (s, .settings s.workspace.service.settings)
  | .setRevealSettings patch =>
    .ok (s.move (.setRevealSettings (patch.apply .default)), .nothing)
  | .settings => do
    s.needService
    return (s, .settings s.workspace.service.settings)
  | .setVisible uris => do
    let visible ← uris.mapM url
    return (s.move (.setVisible visible), .nothing)
  | .setRefusal operation on =>
    let changed := s.workspace.conduct.refuses operation != on
    .ok (s.move (.setRefusal operation on), .flag changed)
  | .setLatency operation milliseconds =>
    .ok (s.move (.setLatency operation milliseconds), .nothing)
  | .advance milliseconds =>
    .ok ({ s with schedule := s.schedule.advance milliseconds }, .nothing)
  | .batch _ => .ok (s, .nothing)
  | .unknown name => .error (.unknownStep name)

mutual
/-- Carries out a step; one that cannot be carried out changes nothing. -/
def carryOut (s : State) (step : Step) : State × Answer :=
  match step with
  | .batch steps => let (s, answers) := carryOutAll s steps; (s, .all answers)
  | step =>
    match perform s step with
    | .ok (s, answer) => (s, answer)
    | .error e => (s, .error e)

def carryOutAll (s : State) (steps : List Step) : State × List Answer :=
  match steps with
  | [] => (s, [])
  | step :: rest =>
    let (s, answer) := carryOut s step
    let (s, answers) := carryOutAll s rest
    (s, answer :: answers)
end

/-- The diagrams of a service in use, its focus and the active diagram. -/
structure ServiceView where
  registered : List Url
  focus : Focus
  active : Option DiagramNo
deriving Repr, DecidableEq

/-- What is seen after a step, with all that happened since the report before. -/
structure Report where
  answer : Answer
  now : Nat
  entries : List Entry
  service : Option ServiceView
  activated : List Bool
  highlight : Option Highlight
  painted : List DecorationId

def Report.of (w : Workspace) (answer : Answer) (reported : Nat) : Report where
  answer
  now := w.now
  entries := (w.history.take (w.history.length - reported)).reverse
  service :=
    if w.service.held then
      some ⟨w.service.registry.map (·.1), w.service.focus, w.service.active.value⟩
    else none
  activated := (List.range w.diagrams.length).map w.isActivated
  highlight := w.revealer.active
  painted := w.paintedDecorations.map (·.1)

def clears? : Entry → Option DecorationId
  | ⟨_, .called (.paint _ decoration [])⟩ => some decoration
  | _ => none

/-- Puts an entry in front of sorted ones: it moves behind clearings of earlier decorations at the
same time. -/
def insertEntry (e : Entry) : List Entry → List Entry
  | [] => [e]
  | f :: rest =>
    match clears? e, clears? f with
    | some d, some d' =>
      if e.time = f.time ∧ d' < d then f :: insertEntry e rest else e :: f :: rest
    | _, _ => e :: f :: rest

/-- Orders neighbouring clearings of one time by decoration. -/
def orderClearings : List Entry → List Entry
  | [] => []
  | e :: rest => insertEntry e (orderClearings rest)

/-- Calls that are listed together: those to the editor, the symbol index and for links, and the ends
of requests that run on their own. -/
def isListedCall (e : Entry) : Bool :=
  match e.event with
  | .called (.setSelectionMode _ _) => false
  | .called (.askSelectedNode _) => false
  | .called (.storeActivation _ _) => false
  | .called _ => true
  | .finished _ tag _ => tag.isSome
  | _ => false

def Report.calls (r : Report) : List Entry :=
  orderClearings (r.entries.filter isListedCall)

/-- Runs the steps of a script. After each one all tasks run until they wait, and what happened is
reported. -/
def run (s : State) : List Step → State × List Report
  | [] => (s, [])
  | step :: rest =>
    let (s, answer) := carryOut s step
    let s := { s with schedule := s.schedule.settle }
    let report := Report.of s.workspace answer s.reported
    let (s, reports) := run { s with reported := s.workspace.history.length } rest
    (s, report :: reports)

end Script

end DiagramLinks
