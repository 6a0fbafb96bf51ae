import DiagramLinks.Text.Quoted
import DiagramLinks.Url

namespace DiagramLinks.Url

def describedText (s : List Char) : String :=
  Text.quoted (String.ofList s)

def describedOption (s : Option String) : String :=
  match s with
  | none => "None"
  | some s => s!"Some({s})"

/-- An IPv4 address inside an IPv6 address shows in dotted form. -/
def Host.described : Host → String
  | name written => s!"Domain({Text.quoted written})"
  | ipv4 address => s!"Ipv4({String.ofList (Ipv4.text address)})"
  | ipv6 [0, 0, 0, 0, 0, 0xffff, a, b] =>
    s!"Ipv6(::ffff:{String.ofList (Ipv4.text (a * 65536 + b))})"
  | ipv6 units => s!"Ipv6({String.ofList (Ipv6.text units)})"

def Parts.described (p : Parts) : String :=
  let authority := p.authority.getD .empty
  let isOpaque := match p.path with
    | .plain _ => true
    | .segments _ => false
  let fields := [
    s!"scheme: {Text.quoted p.scheme.name}",
    s!"cannot_be_a_base: {isOpaque}",
    s!"username: {describedText authority.username}",
    s!"password: {describedOption (authority.password.map describedText)}",
    s!"host: {describedOption (authority.host.map Host.described)}",
    s!"port: {describedOption (authority.port.map toString)}",
    s!"path: {describedText p.path.text}",
    s!"query: {describedOption (p.query.map describedText)}",
    s!"fragment: {describedOption (p.fragment.map describedText)}"]
  "Url \x7b " ++ ", ".intercalate fields ++ " \x7d"

def described (u : Url) : String :=
  match u.parts? with
  | some p => p.described
  | none => Text.quoted u.text

end DiagramLinks.Url
