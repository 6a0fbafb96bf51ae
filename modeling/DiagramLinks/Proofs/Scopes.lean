import Mathlib.Data.List.Induction
import Mathlib.Logic.ExistsUnique
import Mathlib.Logic.Relation
import Mathlib.Tactic.CongrExclamation
import Mathlib.Tactic.Tauto
import DiagramLinks.Proofs.Splits
import DiagramLinks.Scope

namespace DiagramLinks.ScopeUse

variable {steps before : List Step} {s x : Step} {P : List Step → Prop} {i j k t : Nat} {p q : Token}
  {parent other : Option Nat}

/-- A scope after some steps. -/
def asked (steps : List Step) : ScopeUse :=
  steps.foldl step .new

/-- One of the steps is `x`, and those before it meet a condition. -/
def Takes (steps : List Step) (x : Step) (P : List Step → Prop) : Prop :=
  ∃ before rest, steps = before ++ x :: rest ∧ P before

/-- How many tokens were handed out. -/
def handedOut (steps : List Step) : Nat :=
  (asked steps).tokens.length

/-- How many tasks were tracked. -/
def trackings (steps : List Step) : Nat :=
  (asked steps).stopped.length

/-- Token `j` was made below a token, or below the scope itself. -/
def IsMade (steps : List Step) (parent : Option Nat) (j : Nat) : Prop :=
  match parent with
  | none => Takes steps .token fun before => .drop ∉ before ∧ handedOut before = j
  | some i => Takes steps (.child i) fun before => i < handedOut before ∧ handedOut before = j

/-- A token is another one, or above it. -/
def IsAbove (steps : List Step) : Nat → Nat → Prop :=
  Relation.ReflTransGen fun i j => IsMade steps (some i) j

/-- A token was cancelled itself, after it was handed out. -/
def WasCancelled (steps : List Step) (i : Nat) : Prop :=
  Takes steps (.cancel i) fun before => i < handedOut before

/-- The scope was released or dropped. -/
def WasReleased (steps : List Step) : Prop :=
  .release ∈ steps ∨ .drop ∈ steps

/-- A token handed out is cancelled. -/
def IsCancelled (steps : List Step) (j : Nat) : Prop :=
  (asked steps).cancelledTokens[j]? = some true

/-- A task that was tracked has not stopped. -/
def IsRunning (steps : List Step) (t : Nat) : Prop :=
  (asked steps).stopped[t]? = some false

/-- What a scope releases, and what it leaves alone. -/
structure ReleasesOwn (steps : List Step) : Prop where
  /-- Every token was made once, below the scope or below an older token. -/
  made : ∀ j < handedOut steps, ∃! parent, IsMade steps parent j
  /-- A token is cancelled exactly when it or one above it was, or the scope was released. -/
  tokens : ∀ j < handedOut steps, IsCancelled steps j ↔
    (∃ i, IsAbove steps i j ∧ WasCancelled steps i) ∨ WasReleased steps
  /-- To cancel a token cancels those below it. -/
  cancels : ∀ i < handedOut steps, ∀ j, IsCancelled (steps ++ [.cancel i]) j ↔
    IsCancelled steps j ∨ IsAbove steps i j
  /-- To cancel a token cancels none above it, none beside it, and not the scope. -/
  spares : ∀ i < handedOut steps, ∀ j ≠ i,
    IsAbove steps j i ∨ (∃ parent, IsMade steps parent i ∧ IsMade steps parent j) →
      (IsCancelled (steps ++ [.cancel i]) j ↔ IsCancelled steps j)
  /-- The scope is released from the first release or drop on. -/
  released : (asked steps).scope.isReleased = true ↔ WasReleased steps
  /-- Every task was tracked once. -/
  tracked : ∀ t < trackings steps, Takes steps .track fun before => .drop ∉ before ∧ trackings before = t
  /-- A task runs until it ends or until the first release or drop after it was tracked. -/
  tasks : ∀ before rest, steps = before ++ .track :: rest → .drop ∉ before →
    (IsRunning steps (trackings before) ↔ .finish (trackings before) ∉ rest ∧ ¬ WasReleased rest)
  /-- No task that runs is forgotten. -/
  kept : ∀ t, IsRunning steps t → t ∈ (asked steps).scope.tracked

@[simp] theorem asked_nil : asked [] = .new := rfl

@[simp] theorem asked_concat : asked (steps ++ [s]) = (asked steps).step s := by
  simp [asked]

theorem takes_concat : Takes (steps ++ [s]) x P ↔ Takes steps x P ∨ s = x ∧ P steps := by
  constructor
  · rintro ⟨before, rest, split, holds⟩
    obtain ⟨rfl, same, -⟩ | ⟨rest, rfl, -⟩ := concat_split_cases split
    · exact .inr ⟨same, holds⟩
    · exact .inl ⟨before, rest, rfl, holds⟩
  · rintro (⟨before, rest, rfl, holds⟩ | ⟨rfl, holds⟩)
    · exact ⟨before, rest ++ [s], by simp, holds⟩
    · exact ⟨steps, [], rfl, holds⟩

theorem not_takes_nil : ¬ Takes [] x P := by
  rintro ⟨before, rest, split, -⟩
  simp at split

theorem wasReleased_concat : WasReleased (steps ++ [s]) ↔ WasReleased steps ∨ s = .release ∨ s = .drop := by
  simp only [WasReleased, List.mem_append, List.mem_singleton, eq_comm (b := s)]
  tauto

theorem dropped_iff : (asked steps).dropped = true ↔ .drop ∈ steps := by
  induction steps using List.reverseRecOn with
  | nil => simp [new]
  | append_singleton steps s ih =>
    rw [asked_concat, List.mem_append, ← ih]
    cases s <;> grind [step, issue, release]

theorem step_tokens (u : ScopeUse) (s : Step) :
    ((u.step s).tokens = u.tokens ∧ (u.step s).scope.issued = u.scope.issued) ∨
    ∃ path, (u.step s).tokens = u.tokens ++ [path ++ [u.scope.issued]] ∧
      (u.step s).scope.issued = u.scope.issued + 1 ∧
      (s = .token ∧ u.dropped = false ∧ path = Scope.root ∨ ∃ i, s = .child i ∧ u.tokens[i]? = some path) := by
  cases s with
  | token =>
    rw [step]
    split
    · exact .inl ⟨rfl, rfl⟩
    · rename_i kept
      exact .inr ⟨_, rfl, rfl, .inl ⟨rfl, by simpa using kept, rfl⟩⟩
  | child i =>
    simp only [step]
    split
    · rename_i path found
      exact .inr ⟨_, rfl, rfl, .inr ⟨i, rfl, found⟩⟩
    · exact .inl ⟨rfl, rfl⟩
  | cancel i => simp only [step]; split <;> exact .inl ⟨rfl, rfl⟩
  | track => simp only [step]; split <;> exact .inl ⟨rfl, rfl⟩
  | finish i => exact .inl ⟨rfl, rfl⟩
  | release => simp only [step]; split <;> exact .inl ⟨rfl, rfl⟩
  | drop => simp only [step]; split <;> exact .inl ⟨rfl, rfl⟩

theorem issued_eq : (asked steps).scope.issued = handedOut steps := by
  induction steps using List.reverseRecOn with
  | nil => rfl
  | append_singleton steps s ih =>
    unfold handedOut at ih ⊢
    rw [asked_concat]
    obtain ⟨tokens, issued⟩ | ⟨path, tokens, issued, -⟩ := step_tokens (asked steps) s
    · rw [tokens, issued, ih]
    · rw [tokens, issued, ih, List.length_append, List.length_singleton]

theorem getElem?_concat_of_some {p : Token} (h : (asked steps).tokens[j]? = some p) :
    (asked (steps ++ [s])).tokens[j]? = some p := by
  rw [asked_concat]
  obtain ⟨tokens, -⟩ | ⟨path, tokens, -⟩ := step_tokens (asked steps) s
  · rw [tokens, h]
  · rw [tokens, List.getElem?_append_left (List.getElem?_eq_some_iff.mp h).1, h]

theorem getElem?_append_of_some (h : (asked before).tokens[j]? = some p) (rest : List Step) :
    (asked (before ++ rest)).tokens[j]? = some p := by
  induction rest using List.reverseRecOn with
  | nil => rwa [List.append_nil]
  | append_singleton rest s ih =>
    rw [← List.append_assoc]
    exact getElem?_concat_of_some ih

theorem exists_token (h : j < handedOut steps) : ∃ p, (asked steps).tokens[j]? = some p :=
  ⟨_, List.getElem?_eq_getElem h⟩

theorem handedOut_of_some (h : (asked steps).tokens[j]? = some p) : j < handedOut steps :=
  (List.getElem?_eq_some_iff.mp h).1

/-- The path of a parent: a token's own, and that of the scope. -/
def parentPath? (steps : List Step) : Option Nat → Option Token
  | none => some Scope.root
  | some i => (asked steps).tokens[i]?

theorem IsMade.path (h : IsMade steps parent j) : ∃ path, parentPath? steps parent = some path ∧
    (asked steps).tokens[j]? = some (path ++ [j]) ∧ ∀ i, parent = some i → i < j := by
  cases parent with
  | none =>
    obtain ⟨before, rest, rfl, kept, rfl⟩ := h
    refine ⟨Scope.root, rfl, ?_, nofun⟩
    have here : (asked (before ++ [.token])).tokens[handedOut before]? =
        some (Scope.root ++ [handedOut before]) := by
      have held : (asked before).dropped = false := by
        rwa [← dropped_iff, Bool.not_eq_true] at kept
      rw [asked_concat, step, if_neg (by simp [held])]
      simp [issue, Scope.issue, issued_eq, handedOut]
    simpa using getElem?_append_of_some here rest
  | some i =>
    obtain ⟨before, rest, rfl, known, rfl⟩ := h
    obtain ⟨path, found⟩ := exists_token known
    refine ⟨path, getElem?_append_of_some found _, ?_, fun _ same => Option.some.inj same ▸ known⟩
    have here : (asked (before ++ [.child i])).tokens[handedOut before]? =
        some (path ++ [handedOut before]) := by
      rw [asked_concat, step, found]
      simp [issue, Scope.issue, issued_eq, handedOut]
    simpa using getElem?_append_of_some here rest

theorem isMade_concat : IsMade (steps ++ [s]) parent j ↔ IsMade steps parent j ∨ handedOut steps = j ∧
    (s = .token ∧ .drop ∉ steps ∧ parent = none ∨ ∃ i, s = .child i ∧ i < handedOut steps ∧ parent = some i) := by
  cases parent with
  | none => simp only [IsMade, takes_concat]; grind
  | some i => simp only [IsMade, takes_concat]; grind

theorem exists_isMade (h : j < handedOut steps) : ∃ parent, IsMade steps parent j := by
  induction steps using List.reverseRecOn with
  | nil => exact absurd h (Nat.not_lt_zero j)
  | append_singleton steps s ih =>
    by_cases older : j < handedOut steps
    · obtain ⟨parent, made⟩ := ih older
      exact ⟨parent, isMade_concat.mpr (.inl made)⟩
    · have known : ∀ i path, (asked steps).tokens[i]? = some path → i < handedOut steps :=
        fun i path found => (List.getElem?_eq_some_iff.mp found).1
      have newest (path : Token) (tokens : ((asked steps).step s).tokens = (asked steps).tokens ++ [path]) :
          handedOut steps = j := by
        rw [handedOut, asked_concat, tokens, List.length_append, List.length_singleton] at h
        exact Nat.le_antisymm (Nat.not_lt.mp older) (Nat.lt_succ_iff.mp h)
      obtain ⟨tokens, -⟩ | ⟨path, tokens, -, ⟨rfl, held, -⟩ | ⟨i, rfl, found⟩⟩ := step_tokens (asked steps) s
      · rw [handedOut, asked_concat, tokens] at h
        exact absurd h older
      · refine ⟨none, isMade_concat.mpr (.inr ⟨newest _ tokens, .inl ⟨rfl, ?_, rfl⟩⟩)⟩
        rw [← dropped_iff, held]
        simp
      · exact ⟨some i, isMade_concat.mpr (.inr ⟨newest _ tokens, .inr ⟨i, rfl, known i path found, rfl⟩⟩)⟩

theorem getLast?_token (h : (asked steps).tokens[j]? = some p) : p.getLast? = some j := by
  obtain ⟨parent, made⟩ := exists_isMade (handedOut_of_some h)
  obtain ⟨path, -, here, -⟩ := made.path
  obtain rfl := Option.some.inj (h.symm.trans here)
  exact List.getLast?_concat

theorem token_unique (hi : (asked steps).tokens[i]? = some p) (hj : (asked steps).tokens[j]? = some p) : i = j :=
  Option.some.inj ((getLast?_token hi).symm.trans (getLast?_token hj))

theorem token_ne_root (h : (asked steps).tokens[j]? = some p) : p ≠ Scope.root := by
  rintro rfl
  exact absurd (getLast?_token h) (by simp [Scope.root])

theorem IsMade.unique (h : IsMade steps parent j) (h' : IsMade steps other j) : parent = other := by
  obtain ⟨path, above, here, -⟩ := h.path
  obtain ⟨path', above', here', -⟩ := h'.path
  obtain rfl : path = path' := (List.append_inj' (Option.some.inj (here.symm.trans here')) rfl).1
  cases parent <;> cases other
  case none.none => rfl
  case none.some i => exact absurd (Option.some.inj above).symm (token_ne_root above')
  case some.none i => exact absurd (Option.some.inj above').symm (token_ne_root above)
  case some.some i k => rw [token_unique above above']

theorem IsAbove.le (h : IsAbove steps i j) : i ≤ j := by
  induction h with
  | refl => exact Nat.le_refl i
  | tail _ made ih =>
    obtain ⟨_, -, -, older⟩ := made.path
    exact Nat.le_trans ih (Nat.le_of_lt (older _ rfl))

/-- What is above a token is the token, or above its parent. -/
theorem IsMade.isAbove_iff (h : IsMade steps parent j) :
    IsAbove steps i j ↔ i = j ∨ ∃ k, parent = some k ∧ IsAbove steps i k := by
  constructor
  · intro above
    obtain same | ⟨k, above, made⟩ := Relation.ReflTransGen.cases_tail above
    · exact .inl same.symm
    · exact .inr ⟨k, h.unique made, above⟩
  · rintro (rfl | ⟨k, rfl, above⟩)
    · exact .refl
    · exact above.tail h

/-- Paths follow the tree: a token's path begins with those of the tokens above it. -/
theorem isPrefix_iff (hi : (asked steps).tokens[i]? = some p) (hj : (asked steps).tokens[j]? = some q) :
    p <+: q ↔ IsAbove steps i j := by
  induction j using Nat.strongRecOn generalizing q with
  | ind j ih =>
    obtain ⟨parent, made⟩ := exists_isMade (handedOut_of_some hj)
    obtain ⟨path, above, here, older⟩ := made.path
    obtain rfl := Option.some.inj (hj.symm.trans here)
    rw [List.prefix_concat_iff, made.isAbove_iff]
    have itself : p = path ++ [j] ↔ i = j :=
      ⟨fun same => token_unique (same ▸ hi) hj, fun same => Option.some.inj (hi.symm.trans (same ▸ hj))⟩
    rw [itself]
    cases parent with
    | none =>
      obtain rfl := Option.some.inj above
      simp only [Scope.root, List.prefix_nil, reduceCtorEq, false_and, exists_false, or_false, or_iff_left_iff_imp]
      exact fun empty => absurd empty (token_ne_root hi)
    | some k => simp [ih k (older k rfl) above]

theorem handedOut_le_concat : handedOut steps ≤ handedOut (steps ++ [s]) := by
  unfold handedOut
  rw [asked_concat]
  obtain ⟨tokens, -⟩ | ⟨path, tokens, -⟩ := step_tokens (asked steps) s <;> simp [tokens]

theorem WasCancelled.handedOut (h : WasCancelled steps i) : i < handedOut steps := by
  induction steps using List.reverseRecOn with
  | nil => exact absurd h not_takes_nil
  | append_singleton steps s ih =>
    obtain earlier | ⟨-, known⟩ := takes_concat.mp h
    · exact Nat.lt_of_lt_of_le (ih earlier) handedOut_le_concat
    · exact Nat.lt_of_lt_of_le known handedOut_le_concat

theorem mem_step_cancelled (u : ScopeUse) (s : Step) : q ∈ (u.step s).scope.cancelled ↔
    q ∈ u.scope.cancelled ∨ (∃ i, s = .cancel i ∧ u.tokens[i]? = some q) ∨
      u.dropped = false ∧ q = Scope.root ∧ (s = .release ∨ s = .drop) := by
  cases s with
  | cancel i => simp only [step]; split <;> grind [Scope.cancel]
  | token => simp only [step]; split <;> simp [issue, Scope.issue]
  | child i => simp only [step]; split <;> simp [issue, Scope.issue]
  | track => simp only [step]; split <;> simp [Scope.track]
  | finish i => simp [step]
  | release => simp only [step]; split <;> grind [release, Scope.release, Scope.cancel]
  | drop => simp only [step]; split <;> grind [release, Scope.release, Scope.cancel]

/-- The tokens that a scope has cancelled are those that were asked for, and the scope's own. -/
theorem mem_cancelled_iff : q ∈ (asked steps).scope.cancelled ↔
    (∃ i, WasCancelled steps i ∧ (asked steps).tokens[i]? = some q) ∨ q = Scope.root ∧ WasReleased steps := by
  induction steps using List.reverseRecOn with
  | nil => simp [new, Scope.new, WasCancelled, not_takes_nil, WasReleased]
  | append_singleton steps s ih =>
    have kept (i : Nat) (known : i < handedOut steps) :
        (asked (steps ++ [s])).tokens[i]? = (asked steps).tokens[i]? := by
      obtain ⟨p, found⟩ := exists_token known
      rw [found, getElem?_concat_of_some found]
    have own : (∃ i, WasCancelled (steps ++ [s]) i ∧ (asked (steps ++ [s])).tokens[i]? = some q) ↔
        (∃ i, WasCancelled steps i ∧ (asked steps).tokens[i]? = some q) ∨
          ∃ i, s = .cancel i ∧ (asked steps).tokens[i]? = some q := by
      constructor
      · rintro ⟨i, cancelled, found⟩
        obtain earlier | ⟨rfl, known⟩ := takes_concat.mp cancelled
        · exact .inl ⟨i, earlier, by rwa [kept i (WasCancelled.handedOut earlier)] at found⟩
        · exact .inr ⟨i, rfl, by rwa [kept i known] at found⟩
      · rintro (⟨i, earlier, found⟩ | ⟨i, rfl, found⟩)
        · exact ⟨i, takes_concat.mpr (.inl earlier), getElem?_concat_of_some found⟩
        · exact ⟨i, takes_concat.mpr (.inr ⟨rfl, handedOut_of_some found⟩), getElem?_concat_of_some found⟩
    have closed : (asked steps).dropped = true → WasReleased steps := fun held => .inr (dropped_iff.mp held)
    rw [own, wasReleased_concat, asked_concat, mem_step_cancelled, ih, or_or_or_comm, or_right_comm]
    cases held : (asked steps).dropped with
    | true => simp [closed held, or_right_comm]
    | false => simp [and_or_left, or_right_comm]

theorem isReleased_iff : (asked steps).scope.isReleased = true ↔ WasReleased steps := by
  rw [Scope.isReleased, Scope.isCancelled, List.any_eq_true]
  constructor
  · rintro ⟨q, asked, empty⟩
    obtain ⟨i, -, found⟩ | ⟨-, released⟩ := mem_cancelled_iff.mp asked
    · exact absurd (by simpa [Scope.root] using empty) (token_ne_root found)
    · exact released
  · exact fun released => ⟨Scope.root, mem_cancelled_iff.mpr (.inr ⟨rfl, released⟩), rfl⟩

theorem isCancelled_iff_of_some (h : (asked steps).tokens[j]? = some p) :
    IsCancelled steps j ↔ (∃ i, IsAbove steps i j ∧ WasCancelled steps i) ∨ WasReleased steps := by
  have shown : IsCancelled steps j ↔ ∃ q ∈ (asked steps).scope.cancelled, q <+: p := by
    simp [IsCancelled, cancelledTokens, h, Scope.isCancelled]
  rw [shown]
  constructor
  · rintro ⟨q, asked, above⟩
    obtain ⟨i, cancelled, found⟩ | ⟨-, released⟩ := mem_cancelled_iff.mp asked
    · exact .inl ⟨i, (isPrefix_iff found h).mp above, cancelled⟩
    · exact .inr released
  · rintro (⟨i, above, cancelled⟩ | released)
    · obtain ⟨q, found⟩ := exists_token cancelled.handedOut
      exact ⟨q, mem_cancelled_iff.mpr (.inl ⟨i, cancelled, found⟩), (isPrefix_iff found h).mpr above⟩
    · exact ⟨Scope.root, mem_cancelled_iff.mpr (.inr ⟨rfl, released⟩), List.nil_prefix⟩

theorem IsAbove.handedOut (h : IsAbove steps i j) (hi : i < handedOut steps) : j < handedOut steps := by
  obtain rfl | ⟨k, -, made⟩ := Relation.ReflTransGen.cases_tail h
  · exact hi
  · obtain ⟨path, -, here, -⟩ := made.path
    exact handedOut_of_some here

theorem IsCancelled.handedOut (h : IsCancelled steps j) : j < handedOut steps := by
  have := (List.getElem?_eq_some_iff.mp h).1
  simpa [cancelledTokens, ScopeUse.handedOut] using this

theorem isAbove_concat_cancel : IsAbove (steps ++ [.cancel k]) = IsAbove steps := by
  unfold IsAbove
  congr! 3
  simp [isMade_concat]

/-- To cancel a token cancels the tokens below it, and only those. -/
theorem isCancelled_concat_cancel (hi : i < handedOut steps) :
    IsCancelled (steps ++ [.cancel i]) j ↔ IsCancelled steps j ∨ IsAbove steps i j := by
  have same : handedOut (steps ++ [.cancel i]) = handedOut steps := by
    rw [handedOut, asked_concat, step]; split <;> rfl
  by_cases known : j < handedOut steps
  · obtain ⟨p, found⟩ := exists_token known
    rw [isCancelled_iff_of_some found, isCancelled_iff_of_some (getElem?_concat_of_some found),
      isAbove_concat_cancel, wasReleased_concat]
    simp only [WasCancelled, takes_concat, Step.cancel.injEq]
    constructor
    · rintro (⟨k, above, earlier | ⟨rfl, -⟩⟩ | released)
      · exact .inl (.inl ⟨k, above, earlier⟩)
      · exact .inr above
      · exact .inl (.inr (by simpa using released))
    · rintro ((⟨k, above, earlier⟩ | released) | above)
      · exact .inl ⟨k, above, .inl earlier⟩
      · exact .inr (.inl released)
      · exact .inl ⟨i, above, .inr ⟨rfl, hi⟩⟩
  · refine iff_of_false (fun cancelled => known (same ▸ cancelled.handedOut)) ?_
    rintro (cancelled | above)
    · exact known cancelled.handedOut
    · exact known (above.handedOut hi)

/-- No token is below one beside it. -/
theorem IsMade.not_isAbove (hi : IsMade steps parent i) (hj : IsMade steps parent j) (different : j ≠ i) :
    ¬ IsAbove steps i j := by
  rw [hj.isAbove_iff]
  rintro (rfl | ⟨k, rfl, above⟩)
  · exact different rfl
  · obtain ⟨_, -, -, older⟩ := hi.path
    exact absurd above.le (Nat.not_le_of_lt (older k rfl))

/-- A release stops the tracked tasks and no others. -/
theorem getElem?_stopped_release (u : ScopeUse) : u.release.stopped[t]? =
    if t ∈ u.scope.tracked then u.stopped[t]?.map fun _ => true else u.stopped[t]? := by
  have stop (tasks : List TaskNo) : ∀ stopped : List Bool,
      (tasks.foldl (fun stopped t => stopped.set t true) stopped)[t]? =
        if t ∈ tasks then stopped[t]?.map fun _ => true else stopped[t]? := by
    induction tasks with
    | nil => simp
    | cons first tasks ih =>
      intro stopped
      rw [List.foldl_cons, ih]
      grind
  exact stop u.scope.tracked u.stopped

theorem length_stopped_release (u : ScopeUse) : u.release.stopped.length = u.stopped.length := by
  have stop (tasks : List TaskNo) : ∀ stopped : List Bool,
      (tasks.foldl (fun stopped t => stopped.set t true) stopped).length = stopped.length := by
    induction tasks with
    | nil => exact fun _ => rfl
    | cons first tasks ih => exact fun stopped => (ih _).trans List.length_set
  exact stop u.scope.tracked u.stopped

/-- A task that runs is tracked, and the scope has not been dropped. -/
theorem IsRunning.isTracked (h : IsRunning steps t) : t ∈ (asked steps).scope.tracked ∧ .drop ∉ steps := by
  induction steps using List.reverseRecOn with
  | nil => simp [IsRunning, new] at h
  | append_singleton steps s ih =>
    unfold IsRunning at h ih
    rw [asked_concat] at h ⊢
    rw [List.mem_append, List.mem_singleton, ← dropped_iff] at *
    cases s with
    | token => grind [step, issue, Scope.issue]
    | child i => grind [step, issue, Scope.issue]
    | cancel i => grind [step, Scope.cancel]
    | finish i =>
      have running : (asked steps).stopped[t]? = some false := by
        simp only [step, List.getElem?_set] at h
        split at h
        · split at h <;> cases h
        · exact h
      simpa [step] using ih running
    | track =>
      by_cases dropped : (asked steps).dropped = true
      · rw [step, if_pos dropped] at h
        exact absurd dropped (ih h).2
      · simp only [step, if_neg dropped, List.getElem?_append] at h ⊢
        refine ⟨?_, by simpa using dropped⟩
        split at h
        · -- a task that runs is not pruned
          have kept : t ∈ (asked steps).scope.tracked := (ih h).1
          simp [Scope.track, kept, List.getD_eq_getElem?_getD, h]
        · next le =>
          have new : t = (asked steps).stopped.length := by
            have bound := (List.getElem?_eq_some_iff.mp h).1
            rw [List.length_singleton] at bound
            omega
          simp [Scope.track, new]
    -- a release leaves none of the tracked tasks running, and the others did not run before
    | release => grind [step, getElem?_stopped_release]
    | drop => grind [step, getElem?_stopped_release]

/-- What stops a task in a step. -/
theorem isRunning_concat (known : t < trackings steps) : IsRunning (steps ++ [s]) t ↔
    IsRunning steps t ∧ s ≠ .finish t ∧ s ≠ .release ∧ s ≠ .drop := by
  have tracked : IsRunning steps t → t ∈ (asked steps).scope.tracked ∧ (asked steps).dropped = false :=
    fun running => ⟨running.isTracked.1, by simpa [← dropped_iff] using running.isTracked.2⟩
  unfold trackings at known
  unfold IsRunning at tracked ⊢
  rw [asked_concat]
  cases s with
  | token => grind [step, issue]
  | child i => grind [step, issue]
  | cancel i => grind [step]
  | finish i => by_cases same : i = t <;> simp [step, same, known]
  | track =>
    by_cases dropped : (asked steps).dropped = true <;> simp [step, dropped, List.getElem?_append_left known]
  | release => grind [step, getElem?_stopped_release]
  | drop => grind [step, getElem?_stopped_release]

theorem trackings_concat :
    trackings (steps ++ [s]) = trackings steps + if s = .track ∧ .drop ∉ steps then 1 else 0 := by
  simp only [trackings, asked_concat, ← dropped_iff]
  cases s with
  | track => grind [step]
  | release => grind [step, length_stopped_release]
  | drop => grind [step, length_stopped_release]
  | finish i => simp [step]
  | token => grind [step, issue]
  | child i => grind [step, issue]
  | cancel i => grind [step]

/-- A tracked task runs on until it ends or until the next release. -/
theorem isRunning_append (known : t < trackings before) (rest : List Step) : IsRunning (before ++ rest) t ↔
    IsRunning before t ∧ .finish t ∉ rest ∧ ¬ WasReleased rest := by
  suffices t < trackings (before ++ rest) ∧ (IsRunning (before ++ rest) t ↔
      IsRunning before t ∧ .finish t ∉ rest ∧ ¬ WasReleased rest) from this.2
  induction rest using List.reverseRecOn with
  | nil => simpa [WasReleased] using known
  | append_singleton rest s ih =>
    obtain ⟨known, ih⟩ := ih
    rw [← List.append_assoc, isRunning_concat known, ih, wasReleased_concat, trackings_concat]
    refine ⟨Nat.lt_add_right _ known, ?_⟩
    simp only [List.mem_append, List.mem_singleton, eq_comm (a := Step.finish t)]
    tauto

theorem isRunning_track (held : .drop ∉ before) :
    trackings before < trackings (before ++ [.track]) ∧ IsRunning (before ++ [.track]) (trackings before) := by
  refine ⟨by simp [trackings_concat, held], ?_⟩
  rw [← dropped_iff] at held
  rw [IsRunning, asked_concat, step, if_neg held]
  simp [trackings]

theorem takes_track (h : t < trackings steps) :
    Takes steps .track fun before => .drop ∉ before ∧ trackings before = t := by
  induction steps using List.reverseRecOn with
  | nil => exact absurd h (Nat.not_lt_zero t)
  | append_singleton steps s ih =>
    rw [trackings_concat] at h
    rw [takes_concat]
    by_cases older : t < trackings steps
    · exact .inl (ih older)
    · split at h
      · rename_i taken
        exact .inr ⟨taken.1, taken.2, Nat.le_antisymm (Nat.not_lt.mp older) (Nat.lt_succ_iff.mp h)⟩
      · exact absurd h older

/-- Whatever is asked of a scope, it releases everything and only what it owns. -/
theorem asked_releasesOwn (steps : List Step) : ReleasesOwn steps where
  made j h := by
    obtain ⟨parent, made⟩ := exists_isMade h
    exact ⟨parent, made, fun other made' => made'.unique made⟩
  tokens j h := by
    obtain ⟨p, found⟩ := exists_token h
    exact isCancelled_iff_of_some found
  cancels i h j := isCancelled_concat_cancel h
  spares i h j different near := by
    rw [isCancelled_concat_cancel h, or_iff_left]
    obtain above | ⟨parent, here, beside⟩ := near
    · exact fun below => different (Nat.le_antisymm above.le below.le)
    · exact here.not_isAbove beside different
  released := isReleased_iff
  tracked t := takes_track
  tasks before rest split held := by
    obtain ⟨known, running⟩ := isRunning_track held
    rw [split, List.append_cons, isRunning_append known, and_iff_right running]
  kept t running := running.isTracked.1

end DiagramLinks.ScopeUse
