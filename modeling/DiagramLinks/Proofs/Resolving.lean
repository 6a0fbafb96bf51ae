import Mathlib
import DiagramLinks.Symbol.Resolution
import DiagramLinks.Proofs.Ranking

namespace DiagramLinks.Symbol

open Double

variable {ε : Type} {index index' : String → Except ε (List Symbol)} {visible : List Url} {label name : String}
  {answer : List Symbol} {s : Symbol} {location : Location} {fault : ε} {c : Char} {text : List Char}

/-- A letter, digit or underscore of ASCII. -/
def IsWordChar (c : Char) : Prop :=
  'a' ≤ c ∧ c ≤ 'z' ∨ 'A' ≤ c ∧ c ≤ 'Z' ∨ '0' ≤ c ∧ c ≤ '9' ∨ c = '_'

/-- A hash sign that such a character follows directly. -/
def HasTag (label : String) : Prop :=
  ∃ before c after, label.toList = before ++ '#' :: c :: after ∧ IsWordChar c

theorem isTagChar_iff : isTagChar c = true ↔ IsWordChar c := by
  simp only [isTagChar, IsWordChar, Char.isAlphanum, Char.isAlpha, Char.isUpper, Char.isLower, Char.isDigit,
    Char.le_def, Bool.or_eq_true, Bool.and_eq_true, decide_eq_true_eq, beq_iff_eq, ge_iff_le]
  rw [or_assoc, or_assoc, or_left_comm]

theorem takeWhile_eq_nil_iff : text.takeWhile isTagChar = [] ↔ ∀ c after, text = c :: after → ¬IsWordChar c := by
  cases text with
  | nil => simp
  | cons c rest => simp [List.takeWhile_cons, ← isTagChar_iff]

theorem tagChars?_eq_none_iff :
    tagChars? text = none ↔ ∀ before c after, text = before ++ '#' :: c :: after → ¬IsWordChar c := by
  induction text with
  | nil => simp [tagChars?]
  | cons x rest ih =>
    -- A tag starts here or further on.
    have split : (∀ before c after, x :: rest = before ++ '#' :: c :: after → ¬IsWordChar c) ↔
        (x = '#' → rest.takeWhile isTagChar = []) ∧ tagChars? rest = none := by
      rw [ih, takeWhile_eq_nil_iff]
      constructor
      · intro none
        exact ⟨fun hash c after tail => none [] c after (by rw [hash, tail]; rfl),
          fun before c after tail => none (x :: before) c after (by rw [tail]; rfl)⟩
      · rintro ⟨here, later⟩ before c after eq
        cases before with
        | nil =>
          obtain ⟨hash, tail⟩ := List.cons_eq_cons.mp eq
          exact here hash c after tail
        | cons b before => exact later before c after (List.cons_eq_cons.mp eq).2
    rw [split, tagChars?]
    by_cases hash : x = '#'
    · rw [if_pos hash]
      cases found : rest.takeWhile isTagChar with
      | nil => simp
      | cons c more => simp [hash]
    · simp [hash]

theorem tag?_eq_none_iff : tag? label = none ↔ ¬HasTag label := by
  rw [tag?, Option.map_eq_none_iff, tagChars?_eq_none_iff, HasTag]
  constructor
  · rintro none ⟨before, c, after, text, word⟩
    exact none before c after text word
  · intro none before c after text word
    exact none ⟨before, c, after, text, word⟩

theorem best_ne_noTag : best name visible answer ≠ .noTag := by
  unfold best
  split <;> exact nofun

theorem best_eq_noMatch_iff {other : String} :
    best name visible answer = .noMatch other ↔ other = name ∧ ∀ s ∈ answer, s.name ≠ name := by
  unfold best
  split
  next nothing =>
    constructor
    · intro same
      refine ⟨(Resolution.noMatch.inj same).symm, fun s mem named => ?_⟩
      obtain ⟨t, rest, first⟩ := exists_ranked visible mem named
      exact List.cons_ne_nil t rest (first.symm.trans nothing)
    · rintro ⟨rfl, -⟩
      rfl
  next s rest first =>
    obtain ⟨mem, named⟩ := (isEarliestBest_of_ranked first).mem
    exact ⟨nofun, fun ⟨_, foreign⟩ => absurd named (foreign s mem)⟩

theorem best_eq_found_iff {other : String} : best name visible answer = .found other location ↔
    other = name ∧ ∃ s, IsEarliestBest name visible answer s ∧ s.location = location := by
  constructor
  · unfold best
    split
    next => exact nofun
    next s rest first =>
      intro found
      obtain ⟨rfl, rfl⟩ := Resolution.found.inj found
      exact ⟨rfl, s, isEarliestBest_of_ranked first, rfl⟩
  · rintro ⟨rfl, s, earliest, rfl⟩
    obtain ⟨rest, first⟩ := earliest.ranked
    rw [best, first]

theorem best_filter : best name visible (answer.filter (·.name == name)) = best name visible answer := by
  have twice : (answer.filter (·.name == name)).filter (·.name == name) = answer.filter (·.name == name) :=
    List.filter_eq_self.mpr fun _ mem => (List.mem_filter.mp mem).2
  rw [best, best, ranked_congr twice]

theorem resolve_of_none (tag : tag? label = none) : resolve index visible label = (.ok .noTag, []) := by
  rw [resolve, tag]

theorem resolve_of_some (tag : tag? label = some name) :
    resolve index visible label = ((index name).map (best name visible), [name]) := by
  rw [resolve, tag]

theorem map_best_eq_ok_iff {outcome : Resolution} : (index name).map (best name visible) = .ok outcome ↔
    ∃ answer, index name = .ok answer ∧ best name visible answer = outcome := by
  cases index name with
  | error fault => exact ⟨nofun, nofun⟩
  | ok answer => simp [Except.map]

theorem map_best_filter : ((index name).map (·.filter (·.name == name))).map (best name visible) =
    (index name).map (best name visible) := by
  cases index name with
  | error fault => rfl
  | ok answer => exact congrArg Except.ok best_filter

theorem resolve_eq_error_iff : (resolve index visible label).1 = .error fault ↔
    ∃ name, tag? label = some name ∧ index name = .error fault := by
  cases tag : tag? label with
  | none => simp [resolve_of_none tag]
  | some name =>
    rw [resolve_of_some tag]
    cases answers : index name <;> simp [Except.map, answers]

theorem resolve_eq_noMatch_iff : (resolve index visible label).1 = .ok (.noMatch name) ↔
    tag? label = some name ∧ ∃ answer, index name = .ok answer ∧ ∀ s ∈ answer, s.name ≠ name := by
  cases tag : tag? label with
  | none => simp [resolve_of_none tag]
  | some asked =>
    rw [resolve_of_some tag, map_best_eq_ok_iff]
    simp only [best_eq_noMatch_iff, Option.some.injEq]
    constructor
    · rintro ⟨answer, answers, rfl, foreign⟩
      exact ⟨rfl, answer, answers, foreign⟩
    · rintro ⟨rfl, answer, answers, foreign⟩
      exact ⟨answer, answers, rfl, foreign⟩

theorem resolve_eq_found_iff : (resolve index visible label).1 = .ok (.found name location) ↔
    tag? label = some name ∧ ∃ answer s, index name = .ok answer ∧ IsEarliestBest name visible answer s ∧
      s.location = location := by
  cases tag : tag? label with
  | none => simp [resolve_of_none tag]
  | some asked =>
    rw [resolve_of_some tag, map_best_eq_ok_iff]
    simp only [best_eq_found_iff, Option.some.injEq]
    constructor
    · rintro ⟨answer, answers, rfl, s, earliest, place⟩
      exact ⟨rfl, answer, s, answers, earliest, place⟩
    · rintro ⟨rfl, answer, s, answers, earliest, place⟩
      exact ⟨answer, answers, rfl, s, earliest, place⟩

theorem resolve_congr (same : ∀ name, tag? label = some name →
    (index' name).map (·.filter (·.name == name)) = (index name).map (·.filter (·.name == name))) :
    resolve index' visible label = resolve index visible label := by
  cases tag : tag? label with
  | none => rw [resolve_of_none tag, resolve_of_none tag]
  | some name =>
    rw [resolve_of_some tag, resolve_of_some tag, ← map_best_filter, same name tag, map_best_filter]

/-- What comes of a label, whatever the index answers. -/
structure ResolvesExactly (index : String → Except ε (List Symbol)) (visible : List Url) (label : String) : Prop where
  noQuery : (resolve index visible label).2 = [] ↔ ¬HasTag label
  noTag : (resolve index visible label).1 = .ok .noTag ↔ ¬HasTag label
  query : HasTag label → ∃ name, tag? label = some name ∧ (resolve index visible label).2 = [name]
  fails : ∀ fault, (resolve index visible label).1 = .error fault ↔
    ∃ name, tag? label = some name ∧ index name = .error fault
  noMatch : ∀ name, (resolve index visible label).1 = .ok (.noMatch name) ↔
    tag? label = some name ∧ ∃ answer, index name = .ok answer ∧ ∀ s ∈ answer, s.name ≠ name
  found : ∀ name location, (resolve index visible label).1 = .ok (.found name location) ↔
    tag? label = some name ∧ ∃ answer s, index name = .ok answer ∧ IsEarliestBest name visible answer s ∧
      s.location = location
  /-- Only the symbols of exactly that name count, in the order of the answer. -/
  exact : ∀ index' : String → Except ε (List Symbol), (∀ name, tag? label = some name →
      (index' name).map (·.filter (·.name == name)) = (index name).map (·.filter (·.name == name))) →
    resolve index' visible label = resolve index visible label

theorem resolves_exactly (index : String → Except ε (List Symbol)) (visible : List Url) (label : String) :
    ResolvesExactly index visible label where
  noQuery := by
    rw [← tag?_eq_none_iff]
    cases tag : tag? label with
    | none => simp [resolve_of_none tag]
    | some name => simp [resolve_of_some tag]
  noTag := by
    rw [← tag?_eq_none_iff]
    cases tag : tag? label with
    | none => simp [resolve_of_none tag]
    | some name => simp [resolve_of_some tag, map_best_eq_ok_iff, best_ne_noTag]
  query has := by
    cases tag : tag? label with
    | none => exact absurd has (tag?_eq_none_iff.mp tag)
    | some name => exact ⟨name, rfl, by rw [resolve_of_some tag]⟩
  fails _ := resolve_eq_error_iff
  noMatch _ := resolve_eq_noMatch_iff
  found _ _ := resolve_eq_found_iff
  exact _ same := resolve_congr same

end DiagramLinks.Symbol
