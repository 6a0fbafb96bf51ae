namespace DiagramLinks.Symbol

def isTagChar (c : Char) : Bool :=
  c.isAlphanum || c == '_'

/-- The name in the first tag of a label. -/
def tagChars? : List Char → Option (List Char)
  | [] => none
  | c :: rest =>
    if c = '#' then
      match rest.takeWhile isTagChar with
      | [] => tagChars? rest
      | name => some name
    else tagChars? rest

/-- The first hash sign that such a character directly follows names a symbol. -/
def tag? (label : String) : Option String :=
  (tagChars? label.toList).map String.ofList

end DiagramLinks.Symbol
