import DiagramLinks.Json.Reader
import DiagramLinks.Link
import DiagramLinks.Problem
import DiagramLinks.Symbol.Tag

namespace DiagramLinks.CommandLine

/-- Why a text is no numeral of 32 bits. -/
inductive NumeralFault
  | empty
  | notADigit
  | tooLarge
deriving Repr, DecidableEq

def NumeralFault.message : NumeralFault → String
  | empty => "cannot parse integer from empty string"
  | notADigit => "invalid digit found in string"
  | tooLarge => "number too large to fit in target type"

/-- Digits from left to right; the first fault counts. -/
def readDigits (sum : Nat) : List Char → Except NumeralFault UInt32
  | [] => .ok sum.toUInt32
  | c :: rest =>
    if c.isDigit then
      let next := 10 * sum + (c.toNat - '0'.toNat)
      if next < UInt32.size then readDigits next rest else .error .tooLarge
    else .error .notADigit

/-- A numeral: digits, after a plus sign or none. -/
def readNumeral (s : List Char) : Except NumeralFault UInt32 :=
  match s with
  | [] => .error .empty
  | ['+'] => .error .notADigit
  | '+' :: digits => readDigits 0 digits
  | digits => readDigits 0 digits

inductive UsageError
  | missing (what : String)
  | badNumeral (what argument : String) (fault : NumeralFault)
  | badUri (fault : Url.Fault)
  | badJson (e : Json.TextError)
  | badLink (m : Link.Malformed)
  | unknown (argument : String)
  | unexpected (argument : String)

def UsageError.message : UsageError → String
  | missing what => s!"Missing {what}"
  | badNumeral what argument fault => s!"Invalid {what} '{argument}': {fault.message}"
  | badUri fault => fault.message
  | badJson e => e.message
  | badLink m => (Problem.malformed m).message
  | unknown argument => s!"Unknown argument: '{argument}'"
  | unexpected argument => s!"Unexpected argument: '{argument}'"

def version : String := "0.1.0"

def usage : String :=
  s!"codelink {version}, diagram-to-code link inspector.\n" ++
  "\nUsage: codelink [OPTIONS]\n\nAvailable options:\n\n" ++
  "--decode <json>                          Decode stored link data into a location\n" ++
  "--encode <uri> <line> <col> <line> <col> Encode a location as link data\n" ++
  "--tag <label>                            Print the #tag a node label resolves by\n" ++
  "--version                                Print the version\n" ++
  "--help                                   Print this help message\n\n"

def argument (what : String) : List String → Except UsageError (String × List String)
  | [] => .error (.missing what)
  | a :: rest => .ok (a, rest)

def numeral (what : String) (arguments : List String) : Except UsageError (UInt32 × List String) :=
  match argument what arguments with
  | .error e => .error e
  | .ok (a, rest) =>
    match readNumeral a.toList with
    | .ok n => .ok (n, rest)
    | .error fault => .error (.badNumeral what a fault)

/-- The location written by a JSON text. -/
def decode (source : String) : Except UsageError Location :=
  match Json.ofText source with
  | .error e => .error (.badJson e)
  | .ok v =>
    match Location.ofJson v with
    | .error m => .error (.badLink m)
    | .ok l => .ok l

/-- What a command prints, and the arguments after it. -/
def printed (command : String) (rest : List String) : Except UsageError (String × List String) := do
  match command with
  | "--decode" =>
    let (source, rest) ← argument "link data" rest
    let location ← decode source
    return (location.text ++ "\n", rest)
  | "--encode" =>
    let (uri, rest) ← argument "uri" rest
    let uri ← (Url.parse uri).mapError .badUri
    let (startLine, rest) ← numeral "start line" rest
    let (startColumn, rest) ← numeral "start column" rest
    let (endLine, rest) ← numeral "end line" rest
    let (endColumn, rest) ← numeral "end column" rest
    let location : Location := ⟨uri, ⟨⟨startLine, startColumn⟩, ⟨endLine, endColumn⟩⟩⟩
    return ((Link.ofLocation location).toJson.compact ++ "\n", rest)
  | "--tag" =>
    let (label, rest) ← argument "label" rest
    return ((Symbol.tag? label).getD "(no tag)" ++ "\n", rest)
  | "--version" => return (s!"codelink {version}\n", rest)
  | "--help" => return (usage, rest)
  | other => throw (.unknown other)

/-- What a run leaves: its exit status and what it wrote. -/
structure Outcome where
  status : Nat
  out : String
  err : String
deriving Repr, DecidableEq

def Outcome.failed (out : String) (e : UsageError) : Outcome :=
  ⟨1, out, s!"Error: {e.message}\n"⟩

/-- Runs the program. An argument after a complete command is an error, but the command has printed
by then. -/
def run : List String → Outcome
  | [] => ⟨0, usage, ""⟩
  | command :: rest =>
    match printed command rest with
    | .error e => .failed "" e
    | .ok (out, []) => ⟨0, out, ""⟩
    | .ok (out, extra :: _) => .failed out (.unexpected extra)

end DiagramLinks.CommandLine
