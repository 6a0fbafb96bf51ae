import DiagramLinks.Symbol
import DiagramLinks.Watched
import DiagramLinks.Workspace.Task

namespace DiagramLinks

/-- Activation stores are numbered in the order of their creation. -/
abbrev StoreNo := Nat

/-- The store that a diagram is opened with: a new one or that of a diagram opened before. -/
inductive StoreChoice
  | fresh (activated : Bool)
  | shared (diagram : DiagramNo)
deriving Repr, DecidableEq

/-- An open diagram document and the channels to it. -/
structure Diagram where
  id : Url
  /-- Keeps whether selecting its nodes leads to code. -/
  store : StoreNo
  /-- Owns the session of this diagram. -/
  scope : Scope
  /-- Events that were sent and not taken yet. -/
  inbox : List DiagramEvent
  /-- The diagram may still send events. -/
  sending : Bool
  /-- The session still takes events. -/
  receiving : Bool
  hasNode : Bool

/-- What reveals share: their settings, and the highlight that shows now. -/
structure Revealer where
  settings : Settings
  active : Option Highlight
deriving Repr, DecidableEq

/-- The most recent focus of each kind. -/
structure Focus where
  /-- The diagram that has the focus. -/
  active : Option Url
  /-- The diagram that had it last. -/
  lastActive : Option Url
  editor : Option (EditorId × Url)
deriving Repr, DecidableEq

/-- The service that all diagrams share. -/
structure Service where
  settings : Settings
  focus : Focus
  /-- The diagrams with a session, in the order of their opening. -/
  registry : List (Url × DiagramNo)
  active : Watched (Option DiagramNo)
  /-- Owns the status indicator's task. -/
  scope : Scope
  /-- The service is in use; without use it ends with its last running action. -/
  held : Bool
deriving Repr, DecidableEq

/-- How hosts behave: the time they take, what they refuse at the moment, what never works, and how
they name editors and decorations. -/
structure Conduct where
  latency : Operation → Nat
  refuses : Operation → Bool
  neverOpens : Bool
  neverFinds : Bool
  /-- The editor that shows a document in a column, once so many numbers were given. -/
  editorOf : Nat → Url → UInt32 → EditorId
  /-- The decoration that comes with a number. -/
  decorationOf : Nat → DecorationId

/-- Hosts that answer at once and refuse nothing. Editors have the numbers of their columns,
decorations those that come with them. -/
def Conduct.prompt (neverOpens neverFinds : Bool) : Conduct where
  latency _ := 0
  refuses _ := false
  neverOpens
  neverFinds
  editorOf _ _ column := column.toNat
  decorationOf n := n

structure Workspace where
  /-- Milliseconds since the start. -/
  now : Nat
  /-- What happened, the latest first. -/
  history : List Entry
  diagrams : List Diagram
  /-- For each store, whether selecting nodes leads to code. -/
  stores : List (Watched Bool)
  service : Service
  revealer : Revealer
  /-- The documents in the visible panes, in pane order. -/
  visible : List Url
  /-- The selections of text editors. -/
  selections : List (EditorId × Range)
  /-- The last number given to an editor or a decoration. -/
  lastId : Nat
  symbols : List Symbol
  conduct : Conduct
  tasks : List Task

namespace Workspace

def record (w : Workspace) (e : Event) : Workspace :=
  { w with history := ⟨w.now, e⟩ :: w.history }

def call (w : Workspace) (c : Call) : Workspace := w.record (.called c)

def note (w : Workspace) (n : Notice) : Workspace := w.record (.noted n)

def modifyDiagram (w : Workspace) (d : DiagramNo) (f : Diagram → Diagram) : Workspace :=
  { w with diagrams := w.diagrams.modify d f }

def spawn (w : Workspace) (a : Activity) : Workspace :=
  { w with tasks := w.tasks ++ [⟨a, false, false⟩] }

def moveTo (w : Workspace) (t : TaskNo) (a : Activity) : Workspace :=
  { w with tasks := w.tasks.modify t fun task => { task with activity := a } }

def finish (w : Workspace) (t : TaskNo) : Workspace :=
  { w with tasks := w.tasks.modify t fun task => { task with ended := true } }

def abort (w : Workspace) (t : TaskNo) : Workspace :=
  { w with tasks := w.tasks.modify t fun task => { task with aborted := true } }

/-- What the store of a diagram holds. -/
def activation? (w : Workspace) (d : DiagramNo) : Option (Watched Bool) :=
  w.diagrams[d]?.bind fun diagram => w.stores[diagram.store]?

/-- Whether a diagram is activated. -/
def isActivated (w : Workspace) (d : DiagramNo) : Bool :=
  match w.activation? d with
  | some activation => activation.value
  | none => false

def modifyActivation (w : Workspace) (d : DiagramNo) (f : Watched Bool → Watched Bool) : Workspace :=
  match w.diagrams[d]? with
  | some diagram => { w with stores := w.stores.modify diagram.store f }
  | none => w

end Workspace

end DiagramLinks
