import DiagramLinks.Location
import DiagramLinks.Proofs.Splits

namespace DiagramLinks

variable {s s' digits digits' : List Char} {c c' : Char} {n n' : UInt32}

/-- The last character that is no digit splits a text in one way. -/
theorem append_digits_inj (other : c.isDigit = false) (other' : c'.isDigit = false)
    (all : ∀ d ∈ digits, d.isDigit = true) (all' : ∀ d ∈ digits', d.isDigit = true)
    (same : s ++ c :: digits = s' ++ c' :: digits') : s = s' ∧ c = c' ∧ digits = digits' := by
  rcases split_cases same with one | ⟨between, -, rfl⟩ | ⟨between, -, rfl⟩
  · exact one
  · exact absurd (all c' (by simp)) (by simp [other'])
  · exact absurd (all' c (by simp)) (by simp [other])

theorem toDigits_inj (same : Nat.toDigits 10 n.toNat = Nat.toDigits 10 n'.toNat) : n = n' := by
  have values := congrArg (fun digits => Nat.ofDigitChars 10 digits 0) same
  simp only [Nat.ofDigitChars_ten_toDigits] at values
  exact UInt32.toNat_inj.mp values

theorem append_numeral_inj (other : c.isDigit = false) (other' : c'.isDigit = false)
    (same : s ++ c :: Nat.toDigits 10 n.toNat = s' ++ c' :: Nat.toDigits 10 n'.toNat) :
    s = s' ∧ c = c' ∧ n = n' := by
  have all (k : UInt32) : ∀ d ∈ Nat.toDigits 10 k.toNat, d.isDigit = true :=
    fun d mem => Nat.isDigit_of_mem_toDigits (by decide) (by decide) mem
  obtain ⟨before, sign, digits⟩ := append_digits_inj other other' (all n) (all n') same
  exact ⟨before, sign, toDigits_inj digits⟩

theorem Position.append_text_inj {p p' : Position} (other : c.isDigit = false) (other' : c'.isDigit = false)
    (same : s ++ c :: p.text = s' ++ c' :: p'.text) : s = s' ∧ c = c' ∧ p = p' := by
  unfold Position.text at same
  rw [← List.cons_append, ← List.cons_append, ← List.append_assoc, ← List.append_assoc] at same
  obtain ⟨lines, -, columns⟩ := append_numeral_inj (by decide) (by decide) same
  obtain ⟨before, sign, line⟩ := append_numeral_inj other other' lines
  refine ⟨before, sign, ?_⟩
  rw [Position.mk.injEq]
  exact ⟨line, columns⟩

/-- A range at the end of a text, whatever stands before it. -/
theorem Range.append_text_inj {r r' : Range} (same : s ++ ':' :: r.text = s' ++ ':' :: r'.text) :
    s = s' ∧ r = r' := by
  unfold Range.text at same
  rw [← List.cons_append, ← List.cons_append, ← List.append_assoc, ← List.append_assoc] at same
  obtain ⟨starts, -, stop⟩ := Position.append_text_inj (by decide) (by decide) same
  obtain ⟨before, -, start⟩ := Position.append_text_inj (by decide) (by decide) starts
  refine ⟨before, ?_⟩
  rw [Range.mk.injEq]
  exact ⟨start, stop⟩

/-- No two locations have the same text, also where the text of a document ends as that of a range does. -/
theorem Location.text_inj {a b : Location} : a.text = b.text ↔ a = b := by
  constructor
  · intro same
    obtain ⟨documents, range⟩ := Range.append_text_inj (String.ofList_inj.mp same)
    have uri : a.uri = b.uri := by
      rw [Url.mk.injEq]
      exact String.toList_inj.mp documents
    rw [Location.mk.injEq]
    exact ⟨uri, range⟩
  · rintro rfl
    rfl

/-- The document of a location may have a text that stands for a location itself. -/
example : (⟨⟨"file:///d.rs:1:2-3:4", by decide +kernel⟩, ⟨⟨5, 6⟩, ⟨7, 8⟩⟩⟩ : Location).text =
    "file:///d.rs:1:2-3:4:5:6-7:8" := by
  decide +kernel

end DiagramLinks
