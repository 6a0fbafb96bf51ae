import DiagramLinks.Indicator
import DiagramLinks.Location
import DiagramLinks.Problem
import DiagramLinks.Settings

namespace DiagramLinks

inductive Settings.Source
  | defaults
  | editor
deriving Repr, DecidableEq

def Settings.Source.name : Source → String
  | defaults => "defaults"
  | editor => "settings"

inductive Notice
  | settingsLoaded (source : Settings.Source) (settings : Settings)
  | columnZero
  | noSection
  | sessionOpened (id : Url)
  | sessionClosing (id : Url)
  | turned (id : Url) (on : Bool)
  | linked (location : Location) (id : Url)
  | eventFailed (id : Url) (problem : Problem)
  | actionFailed (action : Action) (problem : Problem)
  | modeFailed (id : Url) (failure : HostFailure)

/-- The lines that a notice writes, each with its level. -/
def Notice.lines : Notice → List String
  | settingsLoaded source s =>
    [s!"INFO Code-link configuration loaded from {source.name}:",
      s!"INFO   experimental_features_enabled: {s.experimental}",
      s!"INFO   highlight_duration_ms: {s.duration.toNat}",
      s!"INFO   reveal_view_column: {s.column.toNat}",
      s!"INFO   highlight_color: {s.color}"]
  | columnZero => ["WARN Ignoring revealViewColumn 0, view columns start at 1"]
  | noSection => ["WARN Settings have no codeLink section, keeping current configuration"]
  | sessionOpened id => [s!"INFO Code-link session opened for {id.text}"]
  | sessionClosing id => [s!"INFO Closing code-link session for {id.text}"]
  | turned id true => [s!"INFO Code link for {id.text} turned on"]
  | turned id false => [s!"INFO Code link for {id.text} turned off"]
  | linked location id => [s!"INFO Linked {location.text} to selected node of {id.text}"]
  | eventFailed id problem => [s!"WARN Code link from {id.text} failed: {problem.message}"]
  | actionFailed action problem => [s!"WARN {action.commandId} failed: {problem.message}"]
  | modeFailed id failure =>
    [s!"WARN Failed to set node selection mode of {id.text}: {failure.message}"]

end DiagramLinks
