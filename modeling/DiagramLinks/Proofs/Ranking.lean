import DiagramLinks.Symbol

namespace DiagramLinks.Symbol

open Double

variable {name : String} {visible : List Url} {symbols others before after rest : List Symbol} {s t : Symbol} {k : Int}

theorem mayPrecede_iff :
    mayPrecede visible s t = true ↔ orderKey (t.score visible) ≤ orderKey (s.score visible) :=
  decide_eq_true_iff

theorem mayPrecede_trans (r s t : Symbol) (first : mayPrecede visible r s = true)
    (second : mayPrecede visible s t = true) : mayPrecede visible r t = true :=
  mayPrecede_iff.mpr (Int.le_trans (mayPrecede_iff.mp second) (mayPrecede_iff.mp first))

theorem mayPrecede_total (s t : Symbol) : (mayPrecede visible s t || mayPrecede visible t s) = true := by
  rw [Bool.or_eq_true, mayPrecede_iff, mayPrecede_iff]
  exact Int.le_total _ _

theorem ranked_perm : (ranked name visible symbols).Perm (symbols.filter (·.name == name)) :=
  List.mergeSort_perm _ _

theorem mem_ranked : s ∈ ranked name visible symbols ↔ s ∈ symbols ∧ s.name = name := by
  rw [ranked_perm.mem_iff, List.mem_filter, beq_iff_eq]

theorem ranked_pairwise : (ranked name visible symbols).Pairwise fun s t => mayPrecede visible s t = true :=
  List.pairwise_mergeSort mayPrecede_trans mayPrecede_total _

/-- The symbols of one score, in their order. -/
def ofScore (visible : List Url) (k : Int) (symbols : List Symbol) : List Symbol :=
  symbols.filter fun s => orderKey (s.score visible) == k

theorem mem_ofScore : s ∈ ofScore visible k symbols ↔ s ∈ symbols ∧ orderKey (s.score visible) = k := by
  rw [ofScore, List.mem_filter, beq_iff_eq]

theorem ofScore_ofScore : ofScore visible k (ofScore visible k symbols) = ofScore visible k symbols :=
  List.filter_eq_self.mpr fun _ mem => beq_iff_eq.mpr (mem_ofScore.mp mem).2

/-- Symbols of one score are in order as they are, and so the sort keeps them in that order. -/
theorem ofScore_ranked :
    ofScore visible k (ranked name visible symbols) = ofScore visible k (symbols.filter (·.name == name)) := by
  have sorted : (ofScore visible k (symbols.filter (·.name == name))).Pairwise
      fun s t => mayPrecede visible s t = true := by
    rw [List.pairwise_iff_forall_sublist]
    intro s t sub
    have hs := (mem_ofScore.mp (sub.subset (by simp : s ∈ [s, t]))).2
    have ht := (mem_ofScore.mp (sub.subset (by simp : t ∈ [s, t]))).2
    exact mayPrecede_iff.mpr (by omega)
  have kept : (ofScore visible k (symbols.filter (·.name == name))).Sublist (ranked name visible symbols) :=
    List.sublist_mergeSort mayPrecede_trans mayPrecede_total sorted List.filter_sublist
  have sub : (ofScore visible k (symbols.filter (·.name == name))).Sublist
      (ofScore visible k (ranked name visible symbols)) := by
    rw [← ofScore_ofScore]
    exact kept.filter _
  exact (sub.eq_of_length (ranked_perm.filter _).length_eq.symm).symm

/-- Symbols of other names make no difference. -/
theorem ranked_congr (same : others.filter (·.name == name) = symbols.filter (·.name == name)) :
    ranked name visible others = ranked name visible symbols :=
  congrArg (·.mergeSort (mayPrecede visible)) same

theorem filter_ranked : (ranked name visible symbols).filter (·.name == name) = ranked name visible symbols :=
  List.filter_eq_self.mpr fun _ mem => beq_iff_eq.mpr (mem_ranked.mp mem).2

/-- A symbol of the name, better than those before it and as good as those behind it. -/
def IsEarliestBest (name : String) (visible : List Url) (symbols : List Symbol) (s : Symbol) : Prop :=
  ∃ before after, symbols = before ++ s :: after ∧ s.name = name ∧
    (∀ t ∈ before, t.name = name → orderKey (t.score visible) < orderKey (s.score visible)) ∧
    ∀ t ∈ after, t.name = name → orderKey (t.score visible) ≤ orderKey (s.score visible)

namespace IsEarliestBest

theorem best (h : IsEarliestBest name visible symbols s) (mem : t ∈ symbols) (named : t.name = name) :
    orderKey (t.score visible) ≤ orderKey (s.score visible) := by
  obtain ⟨before, after, rfl, -, better, atLeast⟩ := h
  rcases List.mem_append.mp mem with earlier | mem
  · exact Int.le_of_lt (better t earlier named)
  · obtain rfl | later := List.mem_cons.mp mem
    · exact Int.le_refl _
    · exact atLeast t later named

theorem mem (h : IsEarliestBest name visible symbols s) : s ∈ symbols ∧ s.name = name := by
  obtain ⟨before, after, rfl, named, -⟩ := h
  exact ⟨by simp, named⟩

theorem find?_eq (h : IsEarliestBest name visible symbols s) :
    symbols.find? (fun t => t.name == name && orderKey (t.score visible) == orderKey (s.score visible)) = some s := by
  obtain ⟨before, after, rfl, named, better, -⟩ := h
  rw [List.find?_eq_some_iff_append]
  refine ⟨by simp [named], before, after, rfl, fun t earlier => ?_⟩
  have := better t earlier
  by_cases named : t.name = name
  · simp [Int.ne_of_lt (this named)]
  · simp [named]

theorem unique (hs : IsEarliestBest name visible symbols s) (ht : IsEarliestBest name visible symbols t) : s = t := by
  have same : orderKey (s.score visible) = orderKey (t.score visible) :=
    Int.le_antisymm (ht.best hs.mem.1 hs.mem.2) (hs.best ht.mem.1 ht.mem.2)
  have first := hs.find?_eq
  rw [same, ht.find?_eq] at first
  exact (Option.some.inj first).symm

end IsEarliestBest

theorem isEarliestBest_of_ranked (h : ranked name visible symbols = s :: rest) :
    IsEarliestBest name visible symbols s := by
  obtain ⟨mem, named⟩ := mem_ranked.mp (h ▸ List.mem_cons_self)
  have best : ∀ t ∈ symbols, t.name = name → orderKey (t.score visible) ≤ orderKey (s.score visible) := by
    intro t ht hn
    have ranks : t ∈ s :: rest := h ▸ mem_ranked.mpr ⟨ht, hn⟩
    have sorted : (s :: rest).Pairwise fun s t => mayPrecede visible s t = true := h ▸ ranked_pairwise
    obtain rfl | later := List.mem_cons.mp ranks
    · exact Int.le_refl _
    · exact mayPrecede_iff.mp (List.rel_of_pairwise_cons sorted later)
  -- Among the symbols of its score the first of the ranking is the first of all.
  have first : symbols.filter (fun t => orderKey (t.score visible) == orderKey (s.score visible) && t.name == name) =
      s :: ofScore visible (orderKey (s.score visible)) rest := by
    rw [← List.filter_filter, ← ofScore, ← ofScore_ranked, h]
    exact List.filter_cons_of_pos (beq_self_eq_true _)
  obtain ⟨before, after, rfl, none, -, -⟩ := List.filter_eq_cons_iff.mp first
  refine ⟨before, after, rfl, named, ?_, fun t ht => best t (by simp [ht])⟩
  intro t ht hn
  have other : orderKey (t.score visible) ≠ orderKey (s.score visible) := by
    intro same
    exact none t ht (by rw [same, hn, beq_self_eq_true, beq_self_eq_true, Bool.and_self])
  have := best t (by simp [ht]) hn
  omega

theorem exists_ranked (visible : List Url) (mem : s ∈ symbols) (named : s.name = name) :
    ∃ t rest, ranked name visible symbols = t :: rest :=
  List.exists_cons_of_ne_nil (List.ne_nil_of_mem (mem_ranked.mpr ⟨mem, named⟩))

theorem IsEarliestBest.ranked (h : IsEarliestBest name visible symbols s) :
    ∃ rest, ranked name visible symbols = s :: rest := by
  obtain ⟨t, rest, first⟩ := exists_ranked visible h.mem.1 h.mem.2
  obtain rfl := h.unique (isEarliestBest_of_ranked first)
  exact ⟨rest, first⟩

/-- What the ranking of a list for a name is. -/
structure RanksStably (name : String) (visible : List Url) (symbols : List Symbol) : Prop where
  complete : (ranked name visible symbols).Perm (symbols.filter (·.name == name))
  ordered : (ranked name visible symbols).Pairwise fun s t => orderKey (t.score visible) ≤ orderKey (s.score visible)
  stable : ∀ k, (ranked name visible symbols).filter (fun s => orderKey (s.score visible) == k) =
    (symbols.filter (·.name == name)).filter fun s => orderKey (s.score visible) == k
  /-- Symbols of other names may be put in and taken out. -/
  foreign : ∀ before others after, symbols = before ++ after → (∀ s ∈ others, s.name ≠ name) →
    ranked name visible (before ++ others ++ after) = ranked name visible symbols
  again : ranked name visible (ranked name visible symbols) = ranked name visible symbols

theorem ranks_stably (name : String) (visible : List Url) (symbols : List Symbol) :
    RanksStably name visible symbols where
  complete := ranked_perm
  ordered := ranked_pairwise.imp mayPrecede_iff.mp
  stable _ := ofScore_ranked
  foreign before others after split foreign := by
    apply ranked_congr
    have none : others.filter (·.name == name) = [] :=
      List.filter_eq_nil_iff.mpr fun s mem same => foreign s mem (beq_iff_eq.mp same)
    rw [split, List.filter_append, List.filter_append, none, List.append_nil, List.filter_append]
  again := by
    rw [ranked, filter_ranked]
    exact List.mergeSort_of_pairwise ranked_pairwise

end DiagramLinks.Symbol
