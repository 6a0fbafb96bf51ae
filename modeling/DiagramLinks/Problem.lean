import DiagramLinks.Link.Malformed

namespace DiagramLinks

/-- What linking a selection needs, in the order in which it is checked. -/
inductive Precondition
  | featureEnabled
  | activeDiagram
  | selectedNode
  | textEditor
  | selection
deriving Repr, DecidableEq

def Precondition.unmet : Precondition → String
  | featureEnabled => "Feature not enabled."
  | activeDiagram => "No active diagram."
  | selectedNode => "No diagram node selected."
  | textEditor => "No text editor active."
  | selection => "Nothing selected."

/-- The calls that a host takes its time for and may fail. -/
inductive Operation
  | openDocument
  | showDocument
  | findSymbols
  | setSelectionMode
  | askSelectedNode
  | attachLink
  | storeActivation
deriving Repr, DecidableEq

def Operation.all : List Operation :=
  [.openDocument, .showDocument, .findSymbols, .setSelectionMode, .askSelectedNode, .attachLink,
    .storeActivation]

def Operation.name : Operation → String
  | openDocument => "open"
  | showDocument => "show"
  | findSymbols => "symbols"
  | setSelectionMode => "mode"
  | askSelectedNode => "selected"
  | attachLink => "link"
  | storeActivation => "store"

def Operation.ofName? (name : String) : Option Operation :=
  Operation.all.find? (·.name == name)

inductive HostFailure
  | refused (operation : Operation)
  | cannotOpen (uri : Url)
  | noIndex
  | noNode
  | storeClosed
deriving Repr, DecidableEq

def HostFailure.message : HostFailure → String
  | refused operation => s!"{operation.name} failed"
  | cannotOpen uri => s!"cannot open {uri.text}"
  | noIndex => "symbol index unavailable"
  | noNode => "no node selected"
  | storeClosed => "store closed"

/-- Why an action or the handling of an event failed. -/
inductive Problem
  | unmet (p : Precondition)
  | noSymbol (name : String)
  | malformed (m : Link.Malformed)
  | host (h : HostFailure)

namespace Problem

def message : Problem → String
  | unmet p => p.unmet
  | noSymbol name =>
    s!"No symbol found with name \"{name}\". Maybe you need to load the project by opening at least one of its code files?"
  | malformed m => s!"Malformed code link: {m.message}"
  | host h => h.message

def isPrecondition : Problem → Bool
  | unmet _ => true
  | _ => false

end Problem

end DiagramLinks
