import Mathlib.Data.List.Induction
import DiagramLinks.Proofs.Splits
import DiagramLinks.Watched

namespace DiagramLinks.ActivationStore

variable {activated : Bool} {steps : List Step} {s x : Step} {P : List Step → Step → Prop}
  {store : ActivationStore} {b : Bool} {i j : Nat}

/-- A store after some steps. -/
def after (activated : Bool) (steps : List Step) : ActivationStore :=
  steps.foldl step (new activated)

/-- What watcher `i` reports if it is there: whether it has a change to look at. -/
def report? (store : ActivationStore) (i : Nat) : Option Bool :=
  store.news.getD i none

def Step.value? : Step → Option Bool
  | .set b => some b
  | _ => none

/-- The value set last, or the one at the start. -/
def lastValue (activated : Bool) (steps : List Step) : Bool :=
  (steps.filterMap Step.value?).getLast?.getD activated

/-- How many watchers began to watch. -/
def begun (steps : List Step) : Nat :=
  steps.count .watch

/-- A step met a condition, and no step `x` has come since. -/
def Since (steps : List Step) (P : List Step → Step → Prop) (x : Step) : Prop :=
  ∃ before s rest, steps = before ++ s :: rest ∧ P before s ∧ x ∉ rest

/-- Watcher `i` began to watch and has not left. -/
def IsThere (steps : List Step) (i : Nat) : Prop :=
  Since steps (fun before s => s = .watch ∧ begun before = i) (.leave i)

/-- After watcher `i` began, a value other than the one before was set, and the watcher has not looked since. -/
def HasMissed (activated : Bool) (steps : List Step) (i : Nat) : Prop :=
  Since steps (fun before s => i < begun before ∧ ∃ b, s = .set b ∧ b ≠ lastValue activated before) (.look i)

/-- A step of watcher `i`: it begins to watch, looks or leaves. -/
def IsOf (steps : List Step) (i : Nat) (s : Step) : Prop :=
  s = .watch ∧ begun steps = i ∨ s = .look i ∨ s = .leave i

/-- What a store and its watchers tell. -/
structure TellsChanges (activated : Bool) (steps : List Step) : Prop where
  value : (after activated steps).cell.value = lastValue activated steps
  reads : ∀ i b, (after activated steps).read? i = some b ↔ IsThere steps i ∧ b = lastValue activated steps
  reports : ∀ i b, (after activated steps).report? i = some b ↔
    IsThere steps i ∧ (b = true ↔ HasMissed activated steps i)
  /-- To set the value that is there is no change. -/
  same : ∀ i, (after activated (steps ++ [.set (lastValue activated steps)])).report? i =
    (after activated steps).report? i
  apart : ∀ i s, IsOf steps i s → ∀ j ≠ i,
    (after activated (steps ++ [s])).report? j = (after activated steps).report? j

@[simp] theorem after_concat : after activated (steps ++ [s]) = (after activated steps).step s := by
  simp [after]

theorem since_concat : Since (steps ++ [s]) P x ↔ Since steps P x ∧ s ≠ x ∨ P steps s := by
  constructor
  · rintro ⟨before, t, rest, split, holds, none⟩
    obtain ⟨rfl, rfl, -⟩ | ⟨rest, rfl, rfl⟩ := concat_split_cases split
    · exact .inr holds
    · rw [List.mem_append, List.mem_singleton, not_or] at none
      exact .inl ⟨⟨before, t, rest, rfl, holds, none.1⟩, Ne.symm none.2⟩
  · rintro (⟨⟨before, t, rest, rfl, holds, none⟩, other⟩ | holds)
    · exact ⟨before, t, rest ++ [s], by simp, holds, by simp [none, Ne.symm other]⟩
    · exact ⟨steps, s, [], rfl, holds, by simp⟩

theorem lastValue_concat : lastValue activated (steps ++ [s]) = s.value?.getD (lastValue activated steps) := by
  cases s <;> simp [lastValue, Step.value?]

theorem begun_concat : begun (steps ++ [s]) = begun steps + if s = .watch then 1 else 0 := by
  cases s <;> simp [begun]

theorem isThere_concat : IsThere (steps ++ [s]) i ↔
    IsThere steps i ∧ s ≠ .leave i ∨ s = .watch ∧ begun steps = i := since_concat

theorem hasMissed_concat : HasMissed activated (steps ++ [s]) i ↔ HasMissed activated steps i ∧ s ≠ .look i ∨
    i < begun steps ∧ ∃ b, s = .set b ∧ b ≠ lastValue activated steps := since_concat

theorem IsThere.begun (h : IsThere steps i) : i < begun steps := by
  obtain ⟨before, s, rest, rfl, ⟨rfl, rfl⟩, -⟩ := h
  simp [ActivationStore.begun]

theorem HasMissed.begun (h : HasMissed activated steps i) : i < begun steps := by
  obtain ⟨before, s, rest, rfl, ⟨known, -⟩, -⟩ := h
  refine Nat.lt_of_lt_of_le known ?_
  simp [ActivationStore.begun]

/-- No watcher has seen more changes than there were. -/
def IsSound (store : ActivationStore) : Prop :=
  ∀ i seen, store.watchers.getD i none = some seen → seen ≤ store.cell.changes

theorem report?_eq (store : ActivationStore) (i : Nat) :
    store.report? i = (store.watchers.getD i none).map store.cell.isNews := by
  cases found : store.watchers[i]? <;> simp [report?, news, found]

theorem read?_eq (store : ActivationStore) (i : Nat) :
    store.read? i = (store.report? i).map fun _ => store.cell.value := by
  rw [report?_eq, read?, isWatching]
  cases store.watchers.getD i none <;> rfl

theorem getD_watch (store : ActivationStore) (i : Nat) : store.watch.watchers.getD i none =
    if i = store.watchers.length then some store.cell.changes else store.watchers.getD i none := by
  grind [watch]

theorem getD_modify (watchers : List (Option Nat)) (i j : Nat) {f : Option Nat → Option Nat} (none : f none = none) :
    (watchers.modify j f).getD i .none = if i = j then f (watchers.getD i .none) else watchers.getD i .none := by
  grind

theorem report?_watch (store : ActivationStore) (i : Nat) :
    store.watch.report? i = if i = store.watchers.length then some false else store.report? i := by
  rw [report?_eq, getD_watch, report?_eq]
  split
  · simp [Watched.isNews, watch]
  · rfl

theorem report?_look (store : ActivationStore) (i j : Nat) :
    (store.look j).report? i = if i = j then (store.report? i).map fun _ => false else store.report? i := by
  rw [report?_eq, look, getD_modify _ _ _ rfl, report?_eq]
  split
  · cases store.watchers.getD i none <;> simp [Watched.isNews]
  · rfl

theorem report?_leave (store : ActivationStore) (i j : Nat) :
    (store.leave j).report? i = if i = j then none else store.report? i := by
  rw [report?_eq, leave, getD_modify _ _ _ rfl, report?_eq]
  split <;> rfl

theorem report?_set (sound : store.IsSound) (b : Bool) (i : Nat) : (store.set b).report? i =
    if b = store.cell.value then store.report? i else (store.report? i).map fun _ => true := by
  rw [report?_eq, report?_eq, set, Watched.write]
  by_cases same : store.cell.value = b
  · rw [if_pos same, if_pos same.symm]
  · rw [if_neg same, if_neg (Ne.symm same)]
    cases found : store.watchers.getD i none with
    | none => rfl
    | some seen =>
      have older : store.cell.changes + 1 ≠ seen := by have := sound i seen found; omega
      simp [Watched.isNews, Watched.replace, older]

theorem IsSound.step (sound : store.IsSound) (s : Step) : (store.step s).IsSound := by
  intro i seen found
  cases s with
  | watch =>
    rw [ActivationStore.step, getD_watch] at found
    split at found
    · exact Nat.le_of_eq (Option.some.inj found).symm
    · exact sound i seen found
  | look j =>
    rw [ActivationStore.step, look, getD_modify _ _ _ rfl] at found
    split at found
    · obtain ⟨_, -, rfl⟩ := Option.map_eq_some_iff.mp found
      exact Nat.le_refl _
    · exact sound i seen found
  | leave j =>
    rw [ActivationStore.step, leave, getD_modify _ _ _ rfl] at found
    split at found
    · cases found
    · exact sound i seen found
  | set b =>
    refine Nat.le_trans (sound i seen found) ?_
    rw [ActivationStore.step, set, Watched.write]
    split
    · exact Nat.le_refl _
    · exact Nat.le_succ _

theorem isSound_after (activated : Bool) (steps : List Step) : (after activated steps).IsSound := by
  induction steps using List.reverseRecOn with
  | nil =>
    intro i seen found
    cases found
  | append_singleton steps s ih =>
    rw [after_concat]
    exact ih.step s

theorem value_after (activated : Bool) (steps : List Step) :
    (after activated steps).cell.value = lastValue activated steps := by
  induction steps using List.reverseRecOn with
  | nil => rfl
  | append_singleton steps s ih =>
    rw [after_concat, lastValue_concat, ← ih]
    cases s with
    | set b =>
      rw [step, set, Watched.write]
      split
      · next same => exact same
      · rfl
    | watch => rfl
    | look i => rfl
    | leave i => rfl

theorem length_watchers_after (activated : Bool) (steps : List Step) :
    (after activated steps).watchers.length = begun steps := by
  induction steps using List.reverseRecOn with
  | nil => rfl
  | append_singleton steps s ih =>
    rw [after_concat, begun_concat, ← ih]
    cases s <;> simp [step, watch, set, look, leave]

theorem exists_report {p : Prop} {report : Option Bool}
    (iff : ∀ b, report = some b ↔ IsThere steps i ∧ (b = true ↔ p)) :
    (∃ b, report = some b) ↔ IsThere steps i := by
  constructor
  · rintro ⟨b, found⟩
    exact ((iff b).mp found).1
  · intro there
    by_cases holds : p
    · exact ⟨true, (iff true).mpr ⟨there, by simp [holds]⟩⟩
    · exact ⟨false, (iff false).mpr ⟨there, by simp [holds]⟩⟩

/-- The reports follow the steps. What carries the induction is that no watcher has seen more changes than there
were, so that a further change is one to look at for every watcher. -/
theorem report?_after (activated : Bool) (steps : List Step) (i : Nat) (b : Bool) :
    (after activated steps).report? i = some b ↔
      IsThere steps i ∧ (b = true ↔ HasMissed activated steps i) := by
  induction steps using List.reverseRecOn generalizing b with
  | nil =>
    have nobody : ¬IsThere [] i := by simp [IsThere, Since]
    simp [nobody, after, new, report?, news]
  | append_singleton steps s ih =>
    rw [after_concat, isThere_concat, hasMissed_concat]
    cases s with
    | watch =>
      rw [step, report?_watch, length_watchers_after]
      split
      · next new =>
        subst new
        -- Nothing was missed by a watcher that only begins now.
        have nothing : ¬HasMissed activated steps (begun steps) := fun missed => Nat.lt_irrefl _ missed.begun
        simp [nothing]
      · next other =>
        rw [ih]
        simp [Ne.symm other]
    | look j =>
      rw [step, report?_look]
      split
      · next here =>
        rw [Option.map_eq_some_iff, exists_and_right, exists_report ih]
        simp [here]
      · next other =>
        rw [ih]
        simp [Ne.symm other]
    | leave j =>
      rw [step, report?_leave]
      split
      · next here => simp [here]
      · next other =>
        rw [ih]
        simp [Ne.symm other]
    | set c =>
      rw [step, report?_set (isSound_after activated steps), value_after]
      split
      · next same =>
        rw [ih]
        simp [same]
      · next changed =>
        have told (there : IsThere steps i) : HasMissed activated steps i ∨ i < begun steps := .inr there.begun
        rw [Option.map_eq_some_iff, exists_and_right, exists_report ih]
        simp +contextual [changed, told]

/-- A store tells its watchers of changes only, and of every one. -/
theorem after_tellsChanges (activated : Bool) (steps : List Step) : TellsChanges activated steps where
  value := value_after activated steps
  reads i b := by
    rw [read?_eq, Option.map_eq_some_iff, exists_and_right, exists_report (report?_after activated steps i),
      value_after, eq_comm (a := b)]
  reports i b := report?_after activated steps i b
  same i := by
    rw [after_concat, step, report?_set (isSound_after activated steps), value_after, if_pos rfl]
  apart i s of j other := by
    rw [after_concat]
    obtain ⟨rfl, rfl⟩ | rfl | rfl := of
    · rw [step, report?_watch, length_watchers_after, if_neg other]
    · rw [step, report?_look, if_neg other]
    · rw [step, report?_leave, if_neg other]

/-- A watcher is told of two changes also when they cancel each other. -/
example : (after false [.watch, .set true, .set false]).news = [some true] := by decide

end DiagramLinks.ActivationStore
