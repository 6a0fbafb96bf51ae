import DiagramLinks.Symbol
import DiagramLinks.Symbol.Tag

namespace DiagramLinks.Symbol

inductive Resolution
  /-- The label has no tag. -/
  | noTag
  /-- The index knows no symbol of exactly that name. -/
  | noMatch (name : String)
  | found (name : String) (location : Location)
deriving Repr, DecidableEq

def best (name : String) (visible : List Url) (answer : List Symbol) : Resolution :=
  match ranked name visible answer with
  | [] => .noMatch name
  | s :: _ => .found name s.location

/-- Resolves a label; the index is asked once, and only for a label with a tag. The second part
lists the names asked for. -/
def resolve {ε : Type} (index : String → Except ε (List Symbol)) (visible : List Url)
    (label : String) : Except ε Resolution × List String :=
  match tag? label with
  | none => (.ok .noTag, [])
  | some name => ((index name).map (best name visible), [name])

def occursIn (part : List Char) : List Char → Bool
  | [] => part.isEmpty
  | c :: rest => part.isPrefixOf (c :: rest) || occursIn part rest

def matching (query : String) (symbols : List Symbol) : List Symbol :=
  symbols.filter fun s => occursIn query.toList s.name.toList

end DiagramLinks.Symbol
