import DiagramLinks.Main
import DiagramLinks.Script.Bindings
import DiagramLinks.Proofs.LinkFormat
import DiagramLinks.Proofs.Registry
import DiagramLinks.Proofs.StatusIndicator
import DiagramLinks.Proofs.SelectionMode
import DiagramLinks.Proofs.ClosedSession
import DiagramLinks.Proofs.Commands
import DiagramLinks.Proofs.EventOrder
import DiagramLinks.Proofs.OwnRetraction
import DiagramLinks.Proofs.Following
import DiagramLinks.Proofs.LinkRoundTrip
import DiagramLinks.Proofs.CommandRoundTrip
import DiagramLinks.Proofs.RevealSettings
import DiagramLinks.Proofs.Toggles
import DiagramLinks.Proofs.Failures
import DiagramLinks.Proofs.Scopes
import DiagramLinks.Proofs.Neighbours
import DiagramLinks.Proofs.LinkAction
import DiagramLinks.Proofs.Independence
import DiagramLinks.Proofs.LinkData
import DiagramLinks.Proofs.Preference
import DiagramLinks.Proofs.Resolving
import DiagramLinks.Proofs.FirstTag
import DiagramLinks.Proofs.CanonicalLink
import DiagramLinks.Proofs.SettingsFormat
import DiagramLinks.Proofs.IndicatorRest
import DiagramLinks.Proofs.LocationText
import DiagramLinks.Proofs.CommandLanguage
import DiagramLinks.Proofs.Watchers
import DiagramLinks.Proofs.ModeRest
import DiagramLinks.Proofs.Schedules
