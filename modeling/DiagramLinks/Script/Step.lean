import DiagramLinks.Workspace.State

namespace DiagramLinks.Script

/-- Changes of single settings. -/
structure Patch where
  experimental : Option Bool
  duration : Option UInt64
  column : Option UInt32
  color : Option String
deriving Repr, DecidableEq

def Patch.apply (p : Patch) (s : Settings) : Settings :=
  ⟨p.experimental.getD s.experimental, p.duration.getD s.duration, p.column.getD s.column,
    p.color.getD s.color⟩

/-- A request, with names in place of diagrams and texts in place of URLs. -/
inductive Wish
  | activate (diagram : String) (activated : Bool)
  | toggle
  | link
  | execute (action : Action)
  | command (id : String)
  | handle (diagram : String) (node : NodeSelection)
  | linkLocation (diagram uri : String) (range : Range)
  | reveal (uri : String) (range : Range)

inductive EditorTarget
  | named (editor : String)
  /-- An editor without a selection. -/
  | gone (id : EditorId) (uri : String)
  | none

inductive Step
  | openDiagram (diagram id : String) (activated hasNode lone : Bool)
  | event (diagram : String) (e : DiagramEvent)
  | endEvents (diagram : String)
  | closeDiagram (id : String)
  | closeSession (diagram : String)
  | dropSession (diagram : String)
  | isSessionClosed (diagram : String)
  | dropService
  | focusDiagram (id : Option String)
  | addEditor (editor uri : String) (selection : Range)
  | select (editor : String) (selection : Range)
  | focusEditor (target : EditorTarget)
  | setNode (diagram : String) (selected : Bool)
  | describe (diagram : String)
  | closeStore (diagram : String)
  /-- With a tag the request runs on its own, without one the script waits for its end. -/
  | request (tag : Option String) (wish : Wish)
  | readSettings (settings : Json)
  | setSettings (patch : Patch)
  /-- Sets the settings of reveals only. -/
  | setRevealSettings (patch : Patch)
  | settings
  | setVisible (uris : List String)
  | setRefusal (operation : Operation) (on : Bool)
  | setLatency (operation : Operation) (milliseconds : Nat)
  | advance (milliseconds : Nat)
  /-- Steps with no task running in between. -/
  | batch (steps : List Step)
  | unknown (name : String)

inductive StepError
  | noDiagram (name : String)
  | noEditor (name : String)
  | unknownStep (name : String)
  | badUri (fault : Url.Fault)
  | noService
deriving Repr, DecidableEq

def StepError.message : StepError → String
  | noDiagram name => s!"no diagram {name}"
  | noEditor name => s!"no editor {name}"
  | unknownStep name => s!"unknown step {name}"
  | badUri fault => fault.message
  | noService => "service dropped"

inductive Answer
  | nothing
  | flag (b : Bool)
  | flags (before after : Bool)
  | number (n : Nat)
  | text (s : String)
  | settings (s : Settings)
  | outcome (o : Outcome)
  | error (e : StepError)
  | all (answers : List Answer)

end DiagramLinks.Script
