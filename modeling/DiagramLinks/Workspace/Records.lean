import DiagramLinks.Workspace.State

namespace DiagramLinks.Workspace

/-- Reads the history, the earliest first. -/
def timeline {α : Type} (w : Workspace) (f : Event → Option α) : List α :=
  (w.history.filterMap fun entry => f entry.event).reverse

def opened (w : Workspace) : List Url :=
  w.timeline fun
    | .carriedOut (.openDocument uri) => some uri
    | _ => none

/-- Shown documents, each with its column and whether the focus stayed where it was. -/
def shown (w : Workspace) : List (Url × UInt32 × Bool) :=
  w.timeline fun
    | .carriedOut (.showDocument uri column keepFocus) => some (uri, column, keepFocus)
    | _ => none

def revealed (w : Workspace) : List (EditorId × Range) :=
  w.timeline fun
    | .called (.revealRange editor range) => some (editor, range)
    | _ => none

def errors (w : Workspace) : List String :=
  w.timeline fun
    | .called (.showError message) => some message
    | _ => none

def queries (w : Workspace) : List String :=
  w.timeline fun
    | .carriedOut (.findSymbols name) => some name
    | _ => none

def indications (w : Workspace) : List Indicator :=
  w.timeline fun
    | .indicated i => some i
    | _ => none

/-- The selection modes that a diagram took. -/
def modes (w : Workspace) (d : DiagramNo) : List Bool :=
  w.timeline fun
    | .carriedOut (.setSelectionMode e enabled) => if e = d then some enabled else none
    | _ => none

def links (w : Workspace) (d : DiagramNo) : List Json :=
  w.timeline fun
    | .carriedOut (.attachLink e link) => if e = d then some link else none
    | _ => none

/-- The colours of the decorations, in the order of their creation. -/
def colors (w : Workspace) : List (DecorationId × String) :=
  w.timeline fun
    | .called (.createDecoration decoration color) => some (decoration, color)
    | _ => none

def paintOf? (decoration : DecorationId) : Entry → Option (List Range)
  | ⟨_, .called (.paint _ d ranges)⟩ => if d = decoration then some ranges else none
  | _ => none

/-- The ranges painted with a decoration after a history: those of its latest call. -/
def paintedAfter (history : List Entry) (decoration : DecorationId) : List Range :=
  (history.findSome? (paintOf? decoration)).getD []

def painted (w : Workspace) (decoration : DecorationId) : List Range :=
  paintedAfter w.history decoration

/-- The decorations with painted ranges, the earliest first. -/
def paintedDecorations (w : Workspace) : List (DecorationId × String) :=
  w.colors.filter fun (decoration, _) => !(w.painted decoration).isEmpty

end DiagramLinks.Workspace
