import DiagramLinks.Url.Parts

namespace DiagramLinks

namespace Url

def normalize (s : String) : Except Fault String :=
  (Parts.ofChars s.toList).map fun p => String.ofList p.text

/-- Whether reading a text leaves it as it is. -/
def isNormal (s : String) : Bool :=
  match normalize s with
  | .ok text => text == s
  | .error _ => false

end Url

/-- An absolute URL: a text in normal form. -/
structure Url where
  text : String
  normal : Url.isNormal text = true
deriving Repr, DecidableEq

namespace Url

/-- Reads a URL and brings it to normal form. Only a domain name could lack one. -/
def parse (s : String) : Except Fault Url :=
  match normalize s with
  | .ok text => if h : isNormal text = true then .ok ⟨text, h⟩ else .error .domainName
  | .error fault => .error fault

theorem normalize_text (u : Url) : normalize u.text = .ok u.text := by
  have h := u.normal
  unfold isNormal at h
  split at h
  · next heq => rw [heq, eq_of_beq h]
  · simp at h

theorem parse_text (u : Url) : parse u.text = .ok u := by
  simp [parse, normalize_text, u.normal]

/-- The parts that the normal form spells out. -/
def parts? (u : Url) : Option Parts :=
  (Parts.ofChars u.text.toList).toOption

end Url

end DiagramLinks
