import DiagramLinks.Proofs.Resolving
import DiagramLinks.Proofs.Splits

namespace DiagramLinks.Symbol

variable {text before before' name name' after after' : List Char} {label s : String}

/-- A label split around its first tag. -/
structure SplitsAtTag (label before name after : String) : Prop where
  parts : label = before ++ "#" ++ name ++ after
  nonempty : name ≠ ""
  word : ∀ c ∈ name.toList, IsWordChar c
  maximal : ∀ c rest, after.toList = c :: rest → ¬IsWordChar c
  /-- No hash sign before the tag is directly followed by such a character, wherever that one belongs. -/
  leftmost : ∀ left right, before.toList = left ++ '#' :: right →
    ∀ c rest, right ++ '#' :: (name.toList ++ after.toList) = c :: rest → ¬IsWordChar c

/-- What is read off a label. -/
structure ReadsFirstTag (label : String) : Prop where
  some : ∀ name, tag? label = some name ↔ ∃ before after, SplitsAtTag label before name after
  unique : ∀ before name after before' name' after', SplitsAtTag label before name after →
    SplitsAtTag label before' name' after' → before = before' ∧ name = name' ∧ after = after'
  none : tag? label = none ↔ ¬HasTag label

/-- The same of characters. -/
structure SplitsChars (text before name after : List Char) : Prop where
  parts : text = before ++ '#' :: (name ++ after)
  nonempty : name ≠ []
  word : ∀ c ∈ name, IsWordChar c
  maximal : ∀ c rest, after = c :: rest → ¬IsWordChar c
  leftmost : ∀ left right, before = left ++ '#' :: right →
    ∀ c rest, right ++ '#' :: (name ++ after) = c :: rest → ¬IsWordChar c

theorem splitsAtTag_iff {before name after : String} : SplitsAtTag label before name after ↔
    SplitsChars label.toList before.toList name.toList after.toList := by
  have parts : label = before ++ "#" ++ name ++ after ↔
      label.toList = before.toList ++ '#' :: (name.toList ++ after.toList) := by
    rw [← String.toList_inj]
    simp
  constructor
  · intro h
    exact ⟨parts.mp h.parts, by simpa using h.nonempty, h.word, h.maximal, h.leftmost⟩
  · intro h
    exact ⟨parts.mpr h.parts, by simpa using h.nonempty, h.word, h.maximal, h.leftmost⟩

/-- The longest run of such characters at the front of a text. -/
theorem takeWhile_eq_of_maximal (word : ∀ c ∈ name, IsWordChar c)
    (maximal : ∀ c rest, after = c :: rest → ¬IsWordChar c) : (name ++ after).takeWhile isTagChar = name := by
  rw [List.takeWhile_append_of_pos fun c mem => isTagChar_iff.mpr (word c mem), takeWhile_eq_nil_iff.mpr maximal,
    List.append_nil]

namespace SplitsChars

/-- The name of a split is what is read. -/
theorem reads (h : SplitsChars text before name after) : tagChars? text = some name := by
  obtain ⟨rfl, nonempty, word, maximal, leftmost⟩ := h
  have run := takeWhile_eq_of_maximal word maximal
  induction before with
  | nil =>
    rw [List.nil_append, tagChars?, if_pos rfl, run]
    cases name with
    | nil => exact absurd rfl nonempty
    | cons c name => rfl
  | cons b before ih =>
    have later := ih fun left right split => leftmost (b :: left) right (by rw [split, List.cons_append])
    rw [List.cons_append, tagChars?]
    by_cases hash : b = '#'
    · -- A hash sign of the part before starts no tag.
      have none := takeWhile_eq_nil_iff.mpr (leftmost [] before (by rw [hash, List.nil_append]))
      rw [if_pos hash, none]
      exact later
    · rw [if_neg hash]
      exact later

/-- In front of one split the other has a hash sign that its own first character follows. -/
theorem not_before {q : List Char} (h : SplitsChars text before name after)
    (h' : SplitsChars text before' name' after') : before' ≠ before ++ '#' :: q := by
  intro longer
  have rest : q ++ '#' :: (name' ++ after') = name ++ after := by
    have same := h'.parts.symm.trans h.parts
    rw [longer, List.append_assoc, List.append_cancel_left_eq, List.cons_append] at same
    exact (List.cons.inj same).2
  cases name with
  | nil => exact h.nonempty rfl
  | cons c name => exact h'.leftmost before q longer c (name ++ after) rest (h.word c List.mem_cons_self)

theorem before_eq (h : SplitsChars text before name after) (h' : SplitsChars text before' name' after') :
    before = before' := by
  rcases split_cases (h.parts.symm.trans h'.parts) with ⟨same, -⟩ | ⟨between, longer, -⟩ | ⟨between, longer, -⟩
  · exact same
  · exact absurd longer (h.not_before h')
  · exact absurd longer (h'.not_before h)

theorem unique (h : SplitsChars text before name after) (h' : SplitsChars text before' name' after') :
    before = before' ∧ name = name' ∧ after = after' := by
  obtain rfl := h.before_eq h'
  obtain rfl := Option.some.inj (h.reads.symm.trans h'.reads)
  have rest := h.parts.symm.trans h'.parts
  exact ⟨rfl, rfl, by simpa using rest⟩

end SplitsChars

theorem exists_splitsChars (read : tagChars? text = some name) : ∃ before after, SplitsChars text before name after := by
  induction text with
  | nil => cases read
  | cons x rest ih =>
    -- No tag starts here, so the split of the rest is one of the whole.
    have later (here : x = '#' → rest.takeWhile isTagChar = []) (read : tagChars? rest = some name) :
        ∃ before after, SplitsChars (x :: rest) before name after := by
      obtain ⟨before, after, h⟩ := ih read
      refine ⟨x :: before, after, by rw [h.parts, List.cons_append], h.nonempty, h.word, h.maximal, ?_⟩
      intro left right split
      cases left with
      | nil =>
        obtain ⟨hash, rfl⟩ := List.cons.inj split
        exact h.parts ▸ takeWhile_eq_nil_iff.mp (here hash)
      | cons y left =>
        obtain ⟨-, split⟩ := List.cons.inj split
        exact h.leftmost left right split
    rw [tagChars?] at read
    by_cases hash : x = '#'
    · rw [if_pos hash] at read
      cases run : rest.takeWhile isTagChar with
      | nil => exact later (fun _ => run) (by simpa [run] using read)
      | cons c more =>
        obtain rfl : c :: more = name := by simpa [run] using read
        refine ⟨[], rest.dropWhile isTagChar, ?_, List.cons_ne_nil c more, ?_, ?_, ?_⟩
        · rw [← run, List.takeWhile_append_dropWhile, hash, List.nil_append]
        · intro d mem
          exact isTagChar_iff.mp (List.mem_takeWhile_imp (run ▸ mem))
        · intro d tail split word
          have stops := List.head?_dropWhile_not isTagChar rest
          rw [split] at stops
          simp [isTagChar_iff.mpr word] at stops
        · intro left right split
          simp at split
    · rw [if_neg hash] at read
      exact later (fun same => absurd same hash) read

theorem tag?_readsFirstTag (label : String) : ReadsFirstTag label where
  some name := by
    rw [tag?, Option.map_eq_some_iff]
    constructor
    · rintro ⟨chars, read, rfl⟩
      obtain ⟨before, after, h⟩ := exists_splitsChars read
      exact ⟨String.ofList before, String.ofList after, splitsAtTag_iff.mpr (by simpa using h)⟩
    · rintro ⟨before, after, h⟩
      exact ⟨name.toList, (splitsAtTag_iff.mp h).reads, String.ofList_toList⟩
  unique before name after before' name' after' h h' := by
    obtain ⟨sameBefore, sameName, sameAfter⟩ := (splitsAtTag_iff.mp h).unique (splitsAtTag_iff.mp h')
    exact ⟨String.toList_inj.mp sameBefore, String.toList_inj.mp sameName, String.toList_inj.mp sameAfter⟩
  none := tag?_eq_none_iff

/-- Hash signs without a tag, a tag that an accented letter ends, and a later one. -/
example : tag? "##é #1_bé#two" = some "1_b" := by decide +kernel

end DiagramLinks.Symbol
