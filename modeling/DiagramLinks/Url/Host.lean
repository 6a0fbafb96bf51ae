import DiagramLinks.Url.Domain
import DiagramLinks.Url.Ipv6

namespace DiagramLinks.Url

/-- Why a text is no URL. -/
inductive Fault
  | emptyHost
  | domainName
  | portNumber
  | ipv4Address
  | ipv6Address
  | domainCharacter
  | noScheme
deriving Repr, DecidableEq

def Fault.message : Fault → String
  | emptyHost => "empty host"
  | domainName => "invalid international domain name"
  | portNumber => "invalid port number"
  | ipv4Address => "invalid IPv4 address"
  | ipv6Address => "invalid IPv6 address"
  | domainCharacter => "invalid domain character"
  | noScheme => "relative URL without a base"

/-- Only under a special scheme is a host a domain name or an IPv4 address; under any other it is kept
as written, apart from addresses in brackets. -/
inductive Host
  | name (written : String)
  | ipv4 (address : Nat)
  | ipv6 (units : List Nat)
deriving Repr, DecidableEq

namespace Host

def text : Host → List Char
  | name written => written.toList
  | ipv4 address => Ipv4.text address
  | ipv6 units => '[' :: (Ipv6.text units ++ [']'])

/-- A host that starts with a bracket must be an IPv6 address up to the closing bracket. -/
def bracketed (s : List Char) : Except Fault Host :=
  if s.getLast? = some ']' ∧ 1 < s.length then
    match Ipv6.ofText? (s.drop 1).dropLast with
    | some units => .ok (.ipv6 units)
    | none => .error .ipv6Address
  else .error .ipv6Address

def ofDomain (s : List Char) : Except Fault Host :=
  if s.head? = some '[' then bracketed s
  else
    match Domain.toAscii? (percentDecode s) with
    | none => .error .domainName
    | some [] => .error .emptyHost
    | some domain =>
      if Ipv4.looksNumeric domain then
        match Ipv4.ofHost? domain with
        | some address => .ok (.ipv4 address)
        | none => .error .ipv4Address
      else .ok (.name (String.ofList domain))

/-- What no host may hold, whatever the scheme. -/
def isForbidden (c : Char) : Bool :=
  ['\x00', '\t', '\n', '\r', ' ', '#', '/', ':', '<', '>', '?', '@', '[', '\\', ']', '^', '|'].contains c

/-- The host of any other scheme. -/
def ofOpaque (s : List Char) : Except Fault Host :=
  if s.head? = some '[' then bracketed s
  else if s.any isForbidden then .error .domainCharacter
  else .ok (.name (String.ofList (percentEncode escapesAlways s)))

end Host

end DiagramLinks.Url
