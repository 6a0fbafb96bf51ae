import DiagramLinks.Text.Runs

namespace DiagramLinks.Url.Domain

/-- Runs of characters that run to the right (`L`) or to the left (`R`), of Arabic digits (`A`), other
digits (`E`), marks (`M`), neutral characters (`N`) and all others (`X`). -/
def directionRuns : Text.Runs := Text.Runs.decode (String.join [
  "0N9X5NeX5NfEaN7LqN6LqNaX1N10L1N7E2N1L1N3E1L1N5LnN1LvN1LchN2L7NeL2NeL5N9L1NhM34L4N2L8N1L5N2L1N1L3",
  "2N1L3wM7L74N1L2N3R1M19R1M1R1M2R1M2R1M1R1kA6N2R1N2R1N1R1N2MbR1cMlAaN1A2R3M1R2tM7A1N1M6R2M2N1M4R2E",
  "aRnM1RuMrR2jMbR1mM9R2N4R3M1RoM4R1M9R1M3R1M5R17M3R1gA2R5M9R16MoA1MwL1jM1L1M1L4M8L4M1L3M7LaM2LtM1L",
  "1mM1L4M4L8M1LkM2LeN2L7N1L2M1L2M2L1lM1L4M2L4M2L2M3L3M1LuM2L3M1LbM2L1lM1L4M5L1M2L4M1LkM2LdN1L8M6L1",
  "M1L1mM1L2M1L1M4L8M1L7M2LbM2LuM1L1pM1LcM1L11N8L5M1L3M1L1jM1L1M3L5M3L1M4L7M2LbM2LkN7L2M1L1mM1LfM2L",
  "kM2LsM2L1lM2L4M4L8M1LkM2LtM1L20M1L7M3L1M1L2iM1L2M7L4N1L7M8L2qM1L2M9LbM7L21M2LrM1L1M1L1M1N4L1fMeL",
  "1M5L1M2L5MbL1M10L9M1L2uM4L1M6L1M2L2M2LpM2L4M3LgM4LdM1L2M2L6M1LfM1LjjM3L1cNaL2uN1LhrX1LqN2L39M3Lt",
  "M2LuM2LuM2L1sM2L1M7L8M1L2MbL7N1L1M1LiNaL6NbM3N1M1L39M2LyM1L3aM3L4M2L9M1L6M3L4N1L3N2L48NyLnM2L2M1",
  "L1mM1L1M7L1M1L1M1L2M8L6MaL2M1L1cM1aL2McLkM4L1cM1L1M5L1M1L5M1LbN2LrM9LbN1M2LwM4L2M2L1M3L1kM1L1M2L",
  "3M1L1M3L1mM8L2M2L48M3L1MdL1M7L4M1L6M1L3M2L5iM1sLcdN1L1N3LbN3LdN3LdN3LdN2L1XbN3L1R1NoX7N1cX1N6X4N",
  "6E1L3E6N5L1EaN5LhN1cMxLfN2L1N4L1N2LaN1L1N3L5N6L1N1L1N1L1N1L4N1LbN2L4N5L5N4L2NgL15N3L4NbqL1xNqL1N",
  "44LmNbLlN14EkL26NciL1N9fL74NhgL2N3uL6dN6L4M3L7N7L3jM1L2oMwN2mLyNqL1N2hLcN5yLqNgX1N4L3NpL9M4L2N1L",
  "5N2L5N3L2hM2N2L3N1L2iN1L5gN12L9N1L19N2L1dNgLsN3L1eNfLcN4L4nN4L2rN2LvN1L534N1sLh3kN1jL92N3L2nM4N1",
  "MaN2LuM2L28M2LeNyL2uN1L3dM1L3M1L4M1LpM2L1N4M1LbN2L1mN4L24M2LqMiLdM1L12M8LpMbL1aM3L1cM1L2M4L2M2L1",
  "3M1L1vM6L2M2L2M2LcM1L8M1L1bM1L1fM1L1M3L2M2L5M2L1M1L16M2L8M1L37N2L3dM1L2M1L4M1Lfn3R1M1RaN1ResNiR3",
  "jNxRdN3MgNaL6MgNzL1NjL1N4L4R3zN1L1NfEaN7LqN6LqNbL3eN7L1N7L1NgL75N1L1qN25L3NdL3N1L2kM1L6aM1ErL3eM",
  "5Lw5R7zN1R69M3R1M2R5M4R14M3R4M1R4lM2R2aN7RdgM4R8AaR1bM5R6qAvR18M2R25M6R1yMbR1dM4R3eL1M1L1iMfLbNk",
  "LaM1L2M2LaM3L1dM4L2M2L7M1L1pM3L10M5L1M8L1qM1LcM2L1gM9LaM4L2M1L2nM3L2M1L1M2L6M1L2M1L4dM1L3M8LlM2L",
  "1lM2L3M1L11M7L3M5L1yM6LdM1L1M1L1M1L1N2L1N2L8M2L2dM8L2M3L1M1LnM1L2cM6L1M1L4M2L1M2L6mM4L6M2L1M2LrM",
  "2L2dM8L2M1L1M2LvNdL1qM1L1M1L2M6L1M1L2tM3L2M4L1M5L77M9L1M2L74M2L1M1L4M1L40M4L2M2L4M1LwM6L2M2L14M6",
  "L2M4L8M1L9M6L2M3L1aMdL1M2L5iM1L1M3L1M1L3eN1L26M7L1M6L2cMmL2M7L1M2L1M2L3eM6L3M1L1M2L1M7L1M1L20M2L",
  "3M1L1M1L9nM2LbM2L1gM5L5M1L1M1LnM1L3eNtL40eM1L6MfL8ugMcL3M3L1xcM5L1nM7LfqN3LdbM1L1rM4L27N1L1M1Lf5",
  "kM2L1N4L318N6oLaN3L3Nc4L6NnLfNhLfM1aL2MnLf4M3L9N8M8L2M7LuM4L1nN2LlN1uM3N1L56N2fLp0N1L1lN1L1lN1L1",
  "lN1L1lN1LaE1eLe8M1jL4M1eL8M1LeM1LmM5L1MfL11sM7L1MhL2M7L1M2L1M5L2sM1L4gM7LafM1L1pM4LfN1LdoM4L72M2",
  "LfN1L6bM1L2M1L7M2L5M1L7eR5sM7R31M7R145N2R7iN18L4N2sLcNfL2NfL1NfL1N11LaEbN5LvN1L1mN6L1pN1L4yN6L4a",
  "NrdL3NhL3NdL3N62L6NcL4N1LfNcL4N1kL8NaL6N14L8NuL2NcL4N2LeN9L13N9kL8NeL2NdL3NbL3N1lL1N1L4NgL2NcL4N",
  "aL7N43L1N2kEaN1LsjN2L1ekeN2L1ekeN2L1ekeN2L1ekeN2L1ekeN2L1ekeN2L1ekeN2L1ekeN2L1ekeN2L1ekeN2L1ekeN",
  "2L1ekeN76M6oN2s0L1bemN2L1ekeN2L1ekeN"])

def direction (c : Char) : Char :=
  directionRuns.kindOf c

/-- The first character that runs to the left is in the Hebrew block. -/
def runsLeft (c : Char) : Bool :=
  0x590 ≤ c.toNat && ['R', 'A'].contains (direction c)

/-- Whether a label keeps one direction: the first character sets it, all others go with it, and the
last but for marks is a letter or a digit. Only one kind of digits goes with a label that runs to the
left. -/
def keepsDirection (label : List Char) : Bool :=
  let kinds := label.map direction
  let last := (kinds.reverse.dropWhile (· == 'M')).headD 'M'
  match kinds with
  | [] => true
  | 'L' :: rest => rest.all ['L', 'E', 'N', 'M'].contains && ['L', 'E'].contains last
  | 'R' :: rest =>
    rest.all ['R', 'A', 'E', 'N', 'M'].contains && ['R', 'A', 'E'].contains last
      && !(rest.contains 'A' && rest.contains 'E')
  | _ => false

end DiagramLinks.Url.Domain
