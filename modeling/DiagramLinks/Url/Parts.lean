import DiagramLinks.Url.Host
import DiagramLinks.Url.Path

namespace DiagramLinks.Url

/-- What stands between the double slash and the path. An absent host is empty. -/
structure Authority where
  username : List Char
  password : Option (List Char)
  host : Option Host
  port : Option Nat
deriving Repr, DecidableEq

def Authority.empty : Authority := ⟨[], none, none, none⟩

inductive PathPart
  /-- A path without structure, as after `mailto:`. -/
  | plain (text : List Char)
  | segments (list : List (List Char))
deriving Repr, DecidableEq

structure Parts where
  scheme : Scheme
  authority : Option Authority
  path : PathPart
  query : Option (List Char)
  fragment : Option (List Char)
deriving Repr, DecidableEq

def Authority.text (a : Authority) : List Char :=
  let password := match a.password with
    | none => []
    | some p => ':' :: p
  let userinfo := a.username ++ password
  let port := match a.port with
    | none => []
    | some n => ':' :: Nat.toDigits 10 n
  userinfo ++ (if userinfo.isEmpty then [] else ['@']) ++ (a.host.map Host.text).getD [] ++ port

def PathPart.text : PathPart → List Char
  | plain text => text
  | segments list => list.flatMap ('/' :: ·)

/-- Without an authority a path that starts with two slashes is set off by a dot segment, or it
would read as an authority. -/
def Parts.text (p : Parts) : List Char :=
  let authority := match p.authority with
    | some a => '/' :: '/' :: a.text
    | none => if p.path.text.take 2 = ['/', '/'] then ['/', '.'] else []
  let query := match p.query with
    | none => []
    | some q => '?' :: q
  let fragment := match p.fragment with
    | none => []
    | some f => '#' :: f
  p.scheme.name.toList ++ ':' :: (authority ++ p.path.text ++ query ++ fragment)

/-- Controls and blanks around a URL do not count, nor do tabs and line ends inside. -/
def clean (s : List Char) : List Char :=
  let outer (c : Char) : Bool := c.toNat ≤ 0x20
  ((s.dropWhile outer).reverse.dropWhile outer).reverse.filter
    fun c => !(c == '\t' || c == '\n' || c == '\r')

/-- A letter, then letters, digits, `+`, `-` and `.`, up to a colon. -/
def readScheme? (s : List Char) : Option (Scheme × List Char) :=
  let inScheme (c : Char) : Bool := c.isAlphanum || ['+', '-', '.'].contains c
  match s.takeWhile inScheme, s.dropWhile inScheme with
  | c :: name, ':' :: rest =>
    if c.isAlpha then some (Scheme.ofName (String.ofList ((c :: name).map Char.toLower)), rest)
    else none
  | _, _ => none

def readTail (scheme : Scheme) (s : List Char) : Option (List Char) × Option (List Char) :=
  let fragment (s : List Char) : Option (List Char) :=
    match s with
    | '#' :: rest => some (percentEncode escapesInFragment rest)
    | _ => none
  match s with
  | '?' :: rest =>
    (some (percentEncode (escapesInQuery scheme.isSpecial) (rest.takeWhile (· != '#'))),
      fragment (rest.dropWhile (· != '#')))
  | s => (none, fragment s)

def endsPath (c : Char) : Bool :=
  c == '?' || c == '#'

def endsAuthority (scheme : Scheme) (c : Char) : Bool :=
  endsPath c || scheme.isSlash c

/-- Splits at the last at-sign of an authority. -/
def splitUserinfo (authority : List Char) : Option (List Char) × List Char :=
  match authority.reverse.dropWhile (· != '@') with
  | [] => (none, authority)
  | _ :: before => (some before.reverse, (authority.reverse.takeWhile (· != '@')).reverse)

/-- User name and password, separated by the first colon. An empty password counts as none. -/
def readUserinfo (s : List Char) : List Char × Option (List Char) :=
  let name := percentEncode escapesInUserinfo (s.takeWhile (· != ':'))
  match s.dropWhile (· != ':') with
  | _ :: c :: password => (name, some (percentEncode escapesInUserinfo (c :: password)))
  | _ => (name, none)

/-- Splits a host from what follows: its end is a colon outside brackets. -/
def splitHost (inBrackets : Bool) : List Char → List Char × List Char
  | [] => ([], [])
  | c :: rest =>
    if c = ':' ∧ inBrackets = false then ([], c :: rest)
    else
      let (host, rest) := splitHost (if c = '[' then true else if c = ']' then false else inBrackets) rest
      (c :: host, rest)

/-- Digits of a port; a non-digit before the end of the authority is a fault, except a backslash.
Gives what is left with the port. -/
def readPort (port : Nat) (any : Bool) : List Char → Except Fault (Option Nat × List Char)
  | [] => .ok (if any then some port else none, [])
  | c :: rest =>
    if c.isDigit then
      let next := 10 * port + (c.toNat - '0'.toNat)
      if next < 65536 then readPort next true rest else .error .portNumber
    else if c = '\\' then .ok (if any then some port else none, c :: rest)
    else .error .portNumber

/-- Reads an authority that ends with its text; what is left over belongs to the path. -/
def readAuthority (scheme : Scheme) (s : List Char) : Except Fault (Authority × List Char) := do
  let (userinfo, s) := splitUserinfo s
  let (username, password) := readUserinfo (userinfo.getD [])
  let (hostText, afterHost) := splitHost false s
  if hostText.isEmpty ∧ (scheme.isSpecial ∨ (userinfo.isSome ∧ (username ≠ [] ∨ password ≠ none))) then
    throw .emptyHost
  let host ←
    if scheme.isSpecial then (Host.ofDomain hostText).map some
    else if hostText.isEmpty then pure none
    else (Host.ofOpaque hostText).map some
  match afterHost with
  | [] => return (⟨username, password, host, none⟩, [])
  | _ :: digits =>
    if host.isNone then throw .emptyHost
    let (port, rest) ← readPort 0 false digits
    let port := if port = scheme.defaultPort? then none else port
    return (⟨username, password, host, port⟩, rest)

def readHierarchical (scheme : Scheme) (s : List Char) : Except Fault Parts := do
  let authority := s.takeWhile fun c => !endsAuthority scheme c
  let rest := s.dropWhile fun c => !endsAuthority scheme c
  if authority.getLast? = some '@' ∧ authority.length = 1 ∧ rest ≠ [] then throw .emptyHost
  let (authority, left) ← readAuthority scheme authority
  let s := left ++ rest
  let path := s.takeWhile fun c => !endsPath c
  let tail := s.dropWhile fun c => !endsPath c
  let (query, fragment) := readTail scheme tail
  let segments := match path with
    | [] => if scheme.isSpecial then [[]] else []
    | c :: below =>
      Path.resolve scheme (if scheme.isSlash c then below else c :: below)
  return ⟨scheme, some authority, .segments segments, query, fragment⟩

/-- A local file whose path follows. A drive letter that starts the path takes the place of a host;
after a slash without a host it stays as it is. -/
def readFilePath (host : Option Host) (s : List Char) : Parts :=
  let path := s.takeWhile fun c => !endsPath c
  let (query, fragment) := readTail .file (s.dropWhile fun c => !endsPath c)
  let segments := Path.resolve .file path
  let slashFirst := path.head?.any Scheme.file.isSlash
  let (host, segments) :=
    if host.isNone && slashFirst then (host, segments)
    else
      match Path.onDrive? segments with
      | some segments => (none, segments)
      | none => (host, segments)
  ⟨.file, some { Authority.empty with host }, .segments segments, query, fragment⟩

/-- A local file. Its host may be missing; `localhost` and a drive letter in place of a host count as
missing. -/
def readFile (s : List Char) : Except Fault Parts := do
  let isSlash := Scheme.file.isSlash
  match s with
  | a :: b :: rest =>
    if isSlash a ∧ isSlash b then
      let hostText := rest.takeWhile fun c => !endsAuthority .file c
      let afterHost := rest.dropWhile fun c => !endsAuthority .file c
      if Path.isDriveLetter hostText then return readFilePath none rest
      else if hostText.isEmpty then return readFilePath none afterHost
      else
        match ← Host.ofDomain hostText with
        | .name "localhost" => return readFilePath none afterHost
        | host =>
          match afterHost with
          | c :: below => return readFilePath (some host) (if isSlash c then below else afterHost)
          | [] => return readFilePath (some host) []
    else if isSlash a then return readFilePath none (b :: rest)
    else return readFilePath none s
  | [a] => return readFilePath none (if isSlash a then [] else s)
  | [] => return readFilePath none []

def Parts.ofChars (s : List Char) : Except Fault Parts :=
  match readScheme? (clean s) with
  | none => .error .noScheme
  | some (.file, rest) => readFile rest
  | some (.web name, rest) => readHierarchical (.web name) (rest.dropWhile (Scheme.web name).isSlash)
  | some (.other name, rest) =>
    match rest with
    | '/' :: '/' :: rest => readHierarchical (.other name) rest
    | _ =>
      let path := rest.takeWhile fun c => !endsPath c
      let (query, fragment) := readTail (.other name) (rest.dropWhile fun c => !endsPath c)
      let path := match path with
        | '/' :: below => .segments (Path.resolve (.other name) below)
        | path => .plain (percentEncode escapesAlways path)
      .ok ⟨.other name, none, path, query, fragment⟩

end DiagramLinks.Url
