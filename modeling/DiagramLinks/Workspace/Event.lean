import DiagramLinks.Notice
import DiagramLinks.Workspace.Request

namespace DiagramLinks

abbrev EditorId := Nat
abbrev DecorationId := Nat

/-- A painted decoration and the editor it is painted in. -/
structure Highlight where
  editor : EditorId
  decoration : DecorationId
deriving Repr, DecidableEq

/-- A call to a host. -/
inductive Call
  | findSymbols (name : String)
  | openDocument (uri : Url)
  | showDocument (uri : Url) (column : UInt32) (keepFocus : Bool)
  | revealRange (editor : EditorId) (range : Range)
  | createDecoration (decoration : DecorationId) (color : String)
  | paint (editor : EditorId) (decoration : DecorationId) (ranges : List Range)
  | showError (message : String)
  | setSelectionMode (diagram : DiagramNo) (enabled : Bool)
  | askSelectedNode (diagram : DiagramNo)
  | attachLink (diagram : DiagramNo) (link : Json)
  | storeActivation (diagram : DiagramNo) (activated : Bool)

inductive Event
  /-- A host was called. -/
  | called (call : Call)
  /-- A host did what a call asked for. -/
  | carriedOut (call : Call)
  | indicated (indicator : Indicator)
  /-- A reveal of a location under some settings painted its highlight. -/
  | highlighted (highlight : Highlight) (settings : Settings) (location : Location)
  | noted (notice : Notice)
  /-- A request ended; with a tag it ran on its own. -/
  | finished (request : Request) (tag : Option String) (result : Except Problem Unit)
  /-- A diagram sent an event to its session. -/
  | sent (diagram : DiagramNo) (event : DiagramEvent)
  /-- The session of a diagram took an event. -/
  | taken (diagram : DiagramNo) (event : DiagramEvent)
  /-- The session of a diagram is through with the event it took last. -/
  | handled (diagram : DiagramNo) (result : Except Problem Unit)

structure Entry where
  time : Nat
  event : Event

end DiagramLinks
