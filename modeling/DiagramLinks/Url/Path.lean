import DiagramLinks.Url.Percent

namespace DiagramLinks.Url

inductive Scheme
  /-- Local files. -/
  | file
  /-- Schemes whose authority has a fixed meaning, other than `file`. -/
  | web (name : String)
  | other (name : String)
deriving Repr, DecidableEq

namespace Scheme

def ofName (name : String) : Scheme :=
  if name = "file" then file
  else if ["http", "https", "ws", "wss", "ftp"].contains name then web name
  else other name

def name : Scheme → String
  | file => "file"
  | web name => name
  | other name => name

/-- Special schemes read a backslash as a slash. -/
def isSpecial : Scheme → Bool
  | other _ => false
  | _ => true

/-- The port that is left out when written. -/
def defaultPort? : Scheme → Option Nat
  | web "http" => some 80
  | web "ws" => some 80
  | web "https" => some 443
  | web "wss" => some 443
  | web "ftp" => some 21
  | _ => none

def isSlash (scheme : Scheme) (c : Char) : Bool :=
  c == '/' || (scheme.isSpecial && c == '\\')

end Scheme

namespace Path

/-- A dot, plain or escaped, in front of a segment; with what follows it. -/
def dropDot? : List Char → Option (List Char)
  | '.' :: rest => some rest
  | '%' :: '2' :: 'e' :: rest => some rest
  | '%' :: '2' :: 'E' :: rest => some rest
  | _ => none

def isSingleDot (segment : List Char) : Bool :=
  dropDot? segment == some []

def isDoubleDot (segment : List Char) : Bool :=
  ((dropDot? segment).bind dropDot?) == some []

/-- A letter and a colon or bar. -/
def isDriveLetter : List Char → Bool
  | [letter, mark] => letter.isAlpha && (mark == ':' || mark == '|')
  | _ => false

/-- Leaves the last segment, unless it is a drive letter; segments are listed the last one first. -/
def pop : List (List Char) → List (List Char)
  | [] => []
  | segment :: done => if isDriveLetter segment then segment :: done else done

/-- Takes a segment in. A dot segment at the very end leaves an empty one. -/
def take (done : List (List Char)) (segment : List Char) (last : Bool) : List (List Char) :=
  if isDoubleDot segment then if last then [] :: pop done else pop done
  else if isSingleDot segment then if last then [] :: done else done
  else segment :: done

def takeAll (done : List (List Char)) : List (List Char) → List (List Char)
  | [] => done
  | [segment] => take done (percentEncode escapesInPath segment) true
  | segment :: rest => takeAll (take done (percentEncode escapesInPath segment) false) rest

/-- Empty segments in front, except a last one, are dropped from file paths. -/
def dropLeadingEmpty : List (List Char) → List (List Char)
  | [] :: segment :: rest => dropLeadingEmpty (segment :: rest)
  | segments => segments

/-- The segments of a path, each written after a slash, with dot segments resolved. -/
def resolve (scheme : Scheme) (s : List Char) : List (List Char) :=
  let segments := (takeAll [] (s.splitOnP scheme.isSlash)).reverse
  if scheme = .file then dropLeadingEmpty segments else segments

/-- The path with a colon behind its drive letter, if it starts with one. -/
def onDrive? : List (List Char) → Option (List (List Char))
  | [letter, mark] :: rest =>
    if isDriveLetter [letter, mark] then some ([letter, ':'] :: rest) else none
  | _ => none

end Path

end DiagramLinks.Url
