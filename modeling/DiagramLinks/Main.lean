import DiagramLinks.CommandLine

open DiagramLinks in
def main (arguments : List String) : IO UInt32 := do
  let outcome := CommandLine.run arguments
  IO.print outcome.out
  IO.eprint outcome.err
  return outcome.status.toUInt32
