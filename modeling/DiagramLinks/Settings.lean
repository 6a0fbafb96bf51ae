import DiagramLinks.Json

namespace DiagramLinks

structure Settings where
  /-- Whether linking a selection to a node is on. -/
  experimental : Bool
  /-- Milliseconds that a highlight stays. -/
  duration : UInt64
  /-- The view column that every reveal reuses, counted from one. -/
  column : UInt32
  /-- Theme colour of the highlight's background. -/
  color : String
deriving Repr, DecidableEq

namespace Settings

def default : Settings :=
  ⟨false, 1000, 1, "editor.stackFrameHighlightBackground"⟩

instance : Inhabited Settings := ⟨default⟩

/-- Whether two settings differ in anything that a reveal uses. -/
def revealsDiffer (a b : Settings) : Bool :=
  a.duration != b.duration || a.column != b.column || a.color != b.color

/-- The integer under the key of the view column, if it fits 32 bits. -/
def column? (part : Json) : Option UInt32 :=
  ((part.get? "revealViewColumn").bind Json.natural?).bind fun n =>
    if n.toNat < UInt32.size then some n.toUInt32 else none

/-- Each key counts on its own; one that is absent or holds no valid value leaves its default. -/
def ofSection (part : Json) : Settings where
  experimental :=
    ((part.get? "experimentalFeatures").bind Json.bool?).getD default.experimental
  duration := ((part.get? "highlightDurationMs").bind Json.natural?).getD default.duration
  column := ((column? part).filter (0 < ·)).getD default.column
  color :=
    (((part.get? "highlightColor").bind Json.string?).filter (!·.isEmpty)).getD default.color

def ofJson? (settings : Json) : Option Settings :=
  (settings.get? "codeLink").map ofSection

/-- Whether the settings ask for view column zero, which does not exist. -/
def asksColumnZero (settings : Json) : Bool :=
  (settings.get? "codeLink").bind column? == some 0

end Settings

end DiagramLinks
