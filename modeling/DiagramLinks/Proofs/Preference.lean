import DiagramLinks.Symbol
import DiagramLinks.Proofs.DoubleArithmetic

namespace DiagramLinks.Symbol

open Double

variable {visible : List Url} {s t : Symbol} {n i : Nat}

/-- One for a symbol whose container is missing or has no name. -/
def kindRank (s : Symbol) : Nat :=
  if s.container = none ∨ s.container = some "" then 1 else 0

/-- How many panes there are from the first that shows the symbol's document to the last. -/
def paneRank (visible : List Url) (s : Symbol) : Nat :=
  visible.length - visible.idxOf s.location.uri

/-- What the score would be without rounding. -/
def idealScore (visible : List Url) (s : Symbol) : ℚ :=
  10 * s.kindRank + s.paneRank visible / visible.length

theorem isTopLevel_iff : s.isTopLevel = true ↔ s.container = none ∨ s.container = some "" := by
  unfold isTopLevel
  split
  next none => simp [none]
  next c some => simp [some]

theorem kindRank_eq : s.kindRank = if s.isTopLevel then 1 else 0 := by
  simp only [kindRank, isTopLevel_iff]

theorem kindRank_eq_one : s.kindRank = 1 ↔ s.isTopLevel = true := by
  rw [kindRank_eq]
  split <;> simp_all

theorem paneRank_le : s.paneRank visible ≤ visible.length :=
  Nat.sub_le _ _

theorem paneRank_of_shown (h : visible.idxOf? s.location.uri = some i) :
    i < visible.length ∧ s.paneRank visible = visible.length - i := by
  obtain ⟨lt, -⟩ := List.idxOf?_eq_some_iff.mp h
  rw [paneRank, List.idxOf_eq_getD_idxOf?, h]
  exact ⟨lt, rfl⟩

theorem paneRank_of_hidden (h : visible.idxOf? s.location.uri = none) : s.paneRank visible = 0 := by
  rw [paneRank, List.idxOf_eq_getD_idxOf?, h]
  exact Nat.sub_self _

theorem idxOf?_eq_of_paneRank (same : s.paneRank visible = t.paneRank visible) :
    visible.idxOf? s.location.uri = visible.idxOf? t.location.uri := by
  cases hs : visible.idxOf? s.location.uri with
  | none =>
    rw [paneRank_of_hidden hs] at same
    cases ht : visible.idxOf? t.location.uri with
    | none => rfl
    | some j =>
      obtain ⟨lt, rank⟩ := paneRank_of_shown ht
      omega
  | some i =>
    obtain ⟨lt, rank⟩ := paneRank_of_shown hs
    cases ht : visible.idxOf? t.location.uri with
    | none =>
      rw [paneRank_of_hidden ht] at same
      omega
    | some j =>
      obtain ⟨lt', rank'⟩ := paneRank_of_shown ht
      congr 1
      omega

theorem score_eq_of_ranks (kind : s.kindRank = t.kindRank) (pane : s.paneRank visible = t.paneRank visible) :
    s.score visible = t.score visible := by
  have top : s.isTopLevel = t.isTopLevel := by
    rw [Bool.eq_iff_iff, ← kindRank_eq_one, ← kindRank_eq_one, kind]
  rw [score, score, idxOf?_eq_of_paneRank pane, top]

/-- The score of a pane is rounded once. -/
theorem paneScore_near (lt : i < n) (few : n < 2 ^ 48) :
    ∃ q, Holds (paneScore n i) q ∧ |q - (n - i : Nat) / n| ≤ 2 ^ (-53 : Int) := by
  have some : (0 : ℚ) < n := by exact_mod_cast (Nat.zero_le i).trans_lt lt
  have least : (1 : ℚ) ≤ (n - i : Nat) := by exact_mod_cast Nat.sub_pos_of_lt lt
  have most : ((n - i : Nat) : ℚ) ≤ n := by exact_mod_cast Nat.sub_le n i
  have bottom : (2 : ℚ) ^ (-1021 : Int) ≤ (n - i : Nat) / n := by
    have few : (n : ℚ) ≤ 2 ^ (48 : Int) := by exact_mod_cast few.le
    calc (2 : ℚ) ^ (-1021 : Int) ≤ 2 ^ (-48 : Int) := two_zpow_mono (by decide)
      _ = 1 / 2 ^ (48 : Int) := by rw [zpow_neg, one_div]
      _ ≤ (n - i : Nat) / n := div_le_div₀ (by linarith) least some few
  have below : ((n - i : Nat) / n : ℚ) < 2 ^ (1 : Int) :=
    calc ((n - i : Nat) / n : ℚ) ≤ 1 := (div_le_one some).mpr most
      _ < 2 ^ (1 : Int) := by norm_num
  have number : Holds n.toFloat n := holds_natToFloat (by omega) (by omega)
  have difference : Holds (n.toFloat - i.toFloat) (n - i : Nat) := holds_natToFloat_sub lt (by omega)
  have quotient : RoundsTo ((n - i : Nat) / n) (paneScore n i) :=
    difference.div number bottom (below.trans_le (two_zpow_mono (by decide)))
  obtain ⟨q, holds, near⟩ := quotient.near
  exact ⟨q, holds, near 1 below⟩

/-- What a symbol's document gains by being shown. -/
def shownScore (visible : List Url) (s : Symbol) : Float :=
  match visible.idxOf? s.location.uri with
  | some i => paneScore visible.length i
  | none => 0.0

theorem score_eq : s.score visible =
    if s.isTopLevel then s.shownScore visible + topLevelBonus else s.shownScore visible :=
  rfl

theorem shownScore_near (few : visible.length < 2 ^ 48) :
    ∃ q, Measures (s.shownScore visible) q ∧ |q - s.paneRank visible / visible.length| ≤ 2 ^ (-53 : Int) := by
  unfold shownScore
  split
  next i shown =>
    obtain ⟨lt, rank⟩ := paneRank_of_shown shown
    obtain ⟨q, holds, near⟩ := paneScore_near lt few
    exact ⟨q, .inr holds, rank ▸ near⟩
  next hidden =>
    refine ⟨0, .inl ⟨rfl, rfl⟩, ?_⟩
    rw [paneRank_of_hidden hidden]
    norm_num

theorem fraction_le (visible : List Url) (s : Symbol) : (s.paneRank visible / visible.length : ℚ) ≤ 1 :=
  div_le_one_of_le₀ (by exact_mod_cast paneRank_le) (Nat.cast_nonneg _)

theorem score_near (few : visible.length < 2 ^ 48) :
    ∃ v, Measures (s.score visible) v ∧ |v - s.idealScore visible| < 2 ^ (-49 : Int) := by
  obtain ⟨q, measures, near⟩ := shownScore_near (s := s) few
  rw [score_eq, idealScore, kindRank_eq]
  by_cases top : s.isTopLevel
  · rw [if_pos top, if_pos top]
    obtain ⟨zero, rfl⟩ | holds := measures
    · refine ⟨10, .inr ?_, ?_⟩
      · rw [zero]
        exact holds_ten
      · rw [abs_le] at near
        rw [abs_lt]
        norm_num at near ⊢
        constructor <;> linarith
    · -- The sum is rounded once more.
      have below : q + 10 < 2 ^ (4 : Int) := by
        have := (abs_le.mp near).2
        have := fraction_le visible s
        norm_num at *
        linarith
      obtain ⟨v, holds, again⟩ := (holds.add holds_ten (below.trans_le (two_zpow_mono (by decide)))).near
      refine ⟨v, .inr holds, ?_⟩
      have again := abs_le.mp (again 4 below)
      have near := abs_le.mp near
      rw [abs_lt]
      norm_num at again near ⊢
      constructor <;> linarith
  · rw [if_neg top, if_neg top]
    refine ⟨q, measures, ?_⟩
    rw [Nat.cast_zero, mul_zero, zero_add]
    exact near.trans_lt (by norm_num)

/-- With so few panes, different ranks are further apart than the errors of two scores. -/
theorem idealScore_gap (few : visible.length < 2 ^ 48)
    (lower : s.kindRank < t.kindRank ∨ s.kindRank = t.kindRank ∧ s.paneRank visible < t.paneRank visible) :
    s.idealScore visible + 2 ^ (-48 : Int) ≤ t.idealScore visible := by
  rw [idealScore, idealScore]
  obtain kind | ⟨kind, pane⟩ := lower
  · have : (s.kindRank + 1 : ℚ) ≤ t.kindRank := by exact_mod_cast kind
    have := fraction_le visible s
    have : (0 : ℚ) ≤ t.paneRank visible / visible.length := by positivity
    norm_num
    linarith
  · have some : (0 : ℚ) < visible.length := by
      exact_mod_cast (Nat.zero_le _).trans_lt (pane.trans_le paneRank_le)
    have few : (visible.length : ℚ) ≤ 2 ^ 48 := by exact_mod_cast few.le
    have pane : (s.paneRank visible + 1 : ℚ) ≤ t.paneRank visible := by exact_mod_cast pane
    have unit : (2 : ℚ) ^ (-48 : Int) ≤ 1 / visible.length := by
      rw [zpow_neg, ← one_div]
      exact one_div_le_one_div_of_le some few
    calc (10 * s.kindRank + s.paneRank visible / visible.length + 2 ^ (-48 : Int) : ℚ)
        ≤ 10 * s.kindRank + s.paneRank visible / visible.length + 1 / visible.length := by linarith
      _ = 10 * s.kindRank + (s.paneRank visible + 1) / visible.length := by ring
      _ ≤ 10 * t.kindRank + t.paneRank visible / visible.length := by
        rw [kind]
        gcongr

theorem orderKey_score_lt (few : visible.length < 2 ^ 48)
    (lower : s.kindRank < t.kindRank ∨ s.kindRank = t.kindRank ∧ s.paneRank visible < t.paneRank visible) :
    orderKey (s.score visible) < orderKey (t.score visible) := by
  obtain ⟨v, measures, near⟩ := score_near (s := s) few
  obtain ⟨w, measures', near'⟩ := score_near (s := t) few
  apply measures.orderKey_lt measures'
  have gap := idealScore_gap few lower
  have := (abs_lt.mp near).2
  have := (abs_lt.mp near').1
  norm_num at *
  linarith

/-- What the scores of two symbols say. -/
structure ScoreOrder (visible : List Url) (s t : Symbol) : Prop where
  /-- Only the score of a shown document divides: by the number of panes, which is not zero. -/
  divisor : ∀ i, visible.idxOf? s.location.uri = some i → (visible.length.toFloat != 0.0) = true
  number : (s.score visible).isNaN = false
  compares : compare (orderKey (s.score visible)) (orderKey (t.score visible)) =
    (compare s.kindRank t.kindRank).then (compare (s.paneRank visible) (t.paneRank visible))
  topLevel : s.kindRank = 1 → t.kindRank = 0 → orderKey (t.score visible) < orderKey (s.score visible)
  earlier : ∀ i j, visible.idxOf? s.location.uri = some i → visible.idxOf? t.location.uri = some j → i < j →
    s.kindRank = t.kindRank → orderKey (t.score visible) < orderKey (s.score visible)
  shown : s.location.uri ∈ visible → t.location.uri ∉ visible → s.kindRank = t.kindRank →
    orderKey (t.score visible) < orderKey (s.score visible)
  tie : s.score visible = t.score visible ↔ s.kindRank = t.kindRank ∧ s.paneRank visible = t.paneRank visible

theorem compare_score (few : visible.length < 2 ^ 48) :
    compare (orderKey (s.score visible)) (orderKey (t.score visible)) =
      (compare s.kindRank t.kindRank).then (compare (s.paneRank visible) (t.paneRank visible)) := by
  rcases lt_trichotomy s.kindRank t.kindRank with kind | kind | kind
  · rw [compare_lt_iff_lt.mpr kind, compare_lt_iff_lt.mpr (orderKey_score_lt few (.inl kind))]
    rfl
  · rw [compare_eq_iff_eq.mpr kind, Ordering.eq_then]
    rcases lt_trichotomy (s.paneRank visible) (t.paneRank visible) with pane | pane | pane
    · rw [compare_lt_iff_lt.mpr pane, compare_lt_iff_lt.mpr (orderKey_score_lt few (.inr ⟨kind, pane⟩))]
    · rw [compare_eq_iff_eq.mpr pane, score_eq_of_ranks kind pane, compare_eq_iff_eq.mpr rfl]
    · rw [compare_gt_iff_gt.mpr pane, compare_gt_iff_gt.mpr (orderKey_score_lt few (.inr ⟨kind.symm, pane⟩))]
  · rw [compare_gt_iff_gt.mpr kind, compare_gt_iff_gt.mpr (orderKey_score_lt few (.inl kind))]
    rfl

theorem ranks_eq_of_score (few : visible.length < 2 ^ 48) (same : s.score visible = t.score visible) :
    s.kindRank = t.kindRank ∧ s.paneRank visible = t.paneRank visible := by
  have order := compare_score (s := s) (t := t) few
  rw [same, compare_eq_iff_eq.mpr rfl, eq_comm, Ordering.then_eq_eq] at order
  exact ⟨compare_eq_iff_eq.mp order.1, compare_eq_iff_eq.mp order.2⟩

/-- Symbols are scored by kind first and by pane second. -/
theorem score_order (visible : List Url) (s t : Symbol) (few : visible.length < 2 ^ 48) :
    ScoreOrder visible s t where
  divisor i shown := by
    obtain ⟨lt, -⟩ := paneRank_of_shown shown
    exact (holds_natToFloat (by omega) (by omega)).bne_zero
  number := by
    obtain ⟨v, measures, -⟩ := score_near (s := s) few
    exact measures.isNaN
  compares := compare_score few
  topLevel top member := orderKey_score_lt few (.inl (by omega))
  earlier i j hi hj lt kind := by
    obtain ⟨first, rank⟩ := paneRank_of_shown hi
    obtain ⟨second, rank'⟩ := paneRank_of_shown hj
    exact orderKey_score_lt few (.inr ⟨kind.symm, by omega⟩)
  shown shows hides kind := by
    obtain ⟨i, hi⟩ := Option.isSome_iff_exists.mp (List.isSome_idxOf?.mpr shows)
    obtain ⟨lt, rank⟩ := paneRank_of_shown hi
    have none := paneRank_of_hidden (List.idxOf?_eq_none_iff.mpr hides)
    exact orderKey_score_lt few (.inr ⟨kind.symm, by omega⟩)
  tie := ⟨ranks_eq_of_score few, fun ⟨kind, pane⟩ => score_eq_of_ranks kind pane⟩

/-- A top-level symbol in the second pane and a member in the first. -/
theorem function_outranks_method :
    let near : Url := ⟨"file:///preferred/near.rs", by decide +kernel⟩
    let far : Url := ⟨"file:///preferred/far.rs", by decide +kernel⟩
    let function : Symbol := ⟨"open", some "", ⟨far, ⟨⟨0, 0⟩, ⟨0, 0⟩⟩⟩⟩
    let method : Symbol := ⟨"open", some "Door", ⟨near, ⟨⟨0, 0⟩, ⟨0, 0⟩⟩⟩⟩
    [near, far].length < 2 ^ 48 ∧ ScoreOrder [near, far] function method ∧
      (function.kindRank, function.paneRank [near, far]) = (1, 1) ∧
      (method.kindRank, method.paneRank [near, far]) = (0, 2) := by
  intro near far function method
  exact ⟨by decide, score_order _ _ _ (by decide), by decide +kernel, by decide +kernel⟩

end DiagramLinks.Symbol
