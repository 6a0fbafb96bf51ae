namespace DiagramLinks

variable {α : Type} {before before' after after' : List α} {a a' : α}

theorem split_cases (same : before ++ a :: after = before' ++ a' :: after') :
    (before = before' ∧ a = a' ∧ after = after') ∨
      (∃ between, before' = before ++ a :: between ∧ after = between ++ a' :: after') ∨
      ∃ between, before = before' ++ a' :: between ∧ after' = between ++ a :: after := by
  rcases List.append_eq_append_iff.mp same with ⟨between, longer, split⟩ | ⟨between, longer, split⟩
  · cases between with
    | nil =>
      obtain ⟨here, rest⟩ := List.cons.inj split
      exact .inl ⟨by rw [longer, List.append_nil], here, rest⟩
    | cons b between =>
      obtain ⟨rfl, rest⟩ := List.cons.inj split
      exact .inr (.inl ⟨between, longer, rest⟩)
  · cases between with
    | nil =>
      obtain ⟨here, rest⟩ := List.cons.inj split
      exact .inl ⟨by rw [longer, List.append_nil], here.symm, rest.symm⟩
    | cons b between =>
      obtain ⟨rfl, rest⟩ := List.cons.inj split
      exact .inr (.inr ⟨between, longer, rest⟩)

/-- A list that ends with an element is split at that element or before it. -/
theorem concat_split_cases (same : before ++ [a] = before' ++ a' :: after') :
    (before = before' ∧ a = a' ∧ after' = []) ∨
      ∃ between, before = before' ++ a' :: between ∧ after' = between ++ [a] := by
  rcases split_cases same with ⟨front, here, rest⟩ | ⟨between, -, rest⟩ | last
  · exact .inl ⟨front, here, rest.symm⟩
  · exact absurd rest (by simp)
  · exact .inr last

end DiagramLinks
