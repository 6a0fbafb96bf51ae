import DiagramLinks.Text.CombiningClass
import DiagramLinks.Text.Decomposition

namespace DiagramLinks.Text

/-- Composes `first` with what follows. `kept` holds, the last first, the marks after it that did not
compose; a mark composes only if none of its class or a higher one is in between. -/
def composeFrom (first : Char) (kept : List Char) : List Char → List Char
  | [] => first :: kept.reverse
  | c :: rest =>
    let reaches := match kept with
      | [] => true
      | last :: _ => combiningClass last < combiningClass c
    match if reaches then compose? first c else none with
    | some composed => composeFrom composed kept rest
    | none =>
      if combiningClass c = 0 then first :: (kept.reverse ++ composeFrom c [] rest)
      else composeFrom first (c :: kept) rest

/-- Nothing before the first mark, U+0300, changes on its own. -/
def composed (s : List Char) : List Char :=
  if s.all (·.toNat < 0x300) then s
  else
    match orderMarks (s.flatMap decompose) with
    | [] => []
    | first :: rest => composeFrom first [] rest

end DiagramLinks.Text
