import DiagramLinks.Link.Malformed
import DiagramLinks.Location

namespace DiagramLinks

/-- A location in stored form; its document is not yet known to be a URL. -/
structure Link where
  uri : String
  start : Position
  stop : Position
deriving Repr, DecidableEq

namespace Link

def ofLocation (l : Location) : Link :=
  ⟨l.uri.text, l.range.start, l.range.stop⟩

def location (l : Link) : Except Malformed Location :=
  match Url.parse l.uri with
  | .ok uri => .ok ⟨uri, ⟨l.start, l.stop⟩⟩
  | .error fault => .error (.badUri l.uri fault)

def wordJson (n : UInt32) : Json :=
  .number (.natural n.toUInt64)

def positionJson (p : Position) : Json :=
  .object [("line", wordJson p.line), ("col", wordJson p.column)]

def toJson (l : Link) : Json :=
  .object [("uri", .string l.uri), ("start", positionJson l.start), ("end", positionJson l.stop)]

/-- The fields of a position as they are declared. -/
def positionFields (p : Position) : List (String × Json) :=
  [("line", wordJson p.line), ("col", wordJson p.column)]

/-- The fields of a link as they are declared. -/
def fields (l : Link) : List (String × Json) :=
  [("uri", .string l.uri), ("start", .record (positionFields l.start)),
    ("end", .record (positionFields l.stop))]

def serialized (l : Link) : Json :=
  .record l.fields

def readText (v : Json) : Except Malformed String :=
  match v with
  | .string s => .ok s
  | v => .error (.wrongKind v .text)

def readWord (v : Json) : Except Malformed UInt32 :=
  match v with
  | .number (.natural n) => if n.toNat < UInt32.size then .ok n.toUInt32 else .error (.wrongInteger v)
  | .number (.negative _) => .error (.wrongInteger v)
  | v => .error (.wrongKind v .word)

/-- The entries of a position in their order; the first of each name counts, others are skipped. -/
def readPositionEntries (line column : Option UInt32) :
    List (String × Json) → Except Malformed Position
  | [] =>
    match line, column with
    | none, _ => .error (.missing "line")
    | some _, none => .error (.missing "col")
    | some l, some c => .ok ⟨l, c⟩
  | (key, v) :: rest =>
    if key = "line" ∧ line = none then
      match readWord v with
      | .ok n => readPositionEntries (some n) column rest
      | .error e => .error e
    else if key = "col" ∧ column = none then
      match readWord v with
      | .ok n => readPositionEntries line (some n) rest
      | .error e => .error e
    else readPositionEntries line column rest

def readPositionItems (items : List Json) : Except Malformed Position := do
  match items with
  | [] => throw (.tooFewItems 0 .position)
  | [line] =>
    let _ ← readWord line
    throw (.tooFewItems 1 .position)
  | line :: column :: rest =>
    let line ← readWord line
    let column ← readWord column
    if rest.isEmpty then return ⟨line, column⟩ else throw (.tooManyItems items.length)

def readPosition (v : Json) : Except Malformed Position :=
  match v with
  | .object entries => readPositionEntries none none entries
  | .array items => readPositionItems items
  | v => .error (.wrongKind v .position)

def readEntries (uri : Option String) (start stop : Option Position) :
    List (String × Json) → Except Malformed Link
  | [] =>
    match uri, start, stop with
    | none, _, _ => .error (.missing "uri")
    | some _, none, _ => .error (.missing "start")
    | some _, some _, none => .error (.missing "end")
    | some u, some s, some e => .ok ⟨u, s, e⟩
  | (key, v) :: rest =>
    if key = "uri" ∧ uri = none then
      match readText v with
      | .ok u => readEntries (some u) start stop rest
      | .error e => .error e
    else if key = "start" ∧ start = none then
      match readPosition v with
      | .ok p => readEntries uri (some p) stop rest
      | .error e => .error e
    else if key = "end" ∧ stop = none then
      match readPosition v with
      | .ok p => readEntries uri start (some p) rest
      | .error e => .error e
    else readEntries uri start stop rest

def readItems (items : List Json) : Except Malformed Link := do
  match items with
  | [] => throw (.tooFewItems 0 .link)
  | [uri] =>
    let _ ← readText uri
    throw (.tooFewItems 1 .link)
  | [uri, start] =>
    let _ ← readText uri
    let _ ← readPosition start
    throw (.tooFewItems 2 .link)
  | uri :: start :: stop :: rest =>
    let uri ← readText uri
    let start ← readPosition start
    let stop ← readPosition stop
    if rest.isEmpty then return ⟨uri, start, stop⟩ else throw (.tooManyItems items.length)

def ofJson (v : Json) : Except Malformed Link :=
  match v with
  | .object entries => readEntries none none none entries
  | .array items => readItems items
  | v => .error (.wrongKind v .link)

end Link

/-- The location behind stored link data. -/
def Location.ofJson (v : Json) : Except Link.Malformed Location :=
  (Link.ofJson v).bind Link.location

end DiagramLinks
