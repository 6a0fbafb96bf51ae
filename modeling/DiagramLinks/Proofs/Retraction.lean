import Mathlib.Data.List.Induction
import DiagramLinks.Proofs.Aside

namespace DiagramLinks

open Workspace

variable {w w' u : Workspace} {t : TaskNo} {m : Move} {h : Highlight} {due : Nat}

/-- What has become of a retraction that was under way in `w`: it waits, or it has cleared its highlight
when its time was up. -/
def Retracts (w w' : Workspace) (t : TaskNo) (h : Highlight) (due : Nat) : Prop :=
  w'.runs t (.retraction h due) ∨
    w'.tasks[t]? = some ⟨.retraction h due, false, true⟩ ∧ ∃ new time, due ≤ time ∧ time ≤ w'.now ∧
      w'.history = new ++ w.history ∧ ⟨time, .called (.paint h.editor h.decoration [])⟩ ∈ new

theorem Change.now_le {a : Author} (h : Change a w w') : w.now ≤ w'.now := by
  have stays (same : w'.now = w.now) : w.now ≤ w'.now := Nat.le_of_eq same.symm
  cases h with
  | wait milliseconds => exact Nat.le_add_right ..
  | highlight s l => exact stays (by rw [highlight_eq])
  | retract h => exact stays (by rw [retract_eq]; rfl)
  | openDiagram id choice hasNode =>
    obtain ⟨stores, store, -, he⟩ := openDiagram_eq w id choice hasNode
    exact stays (by rw [he])
  | release d =>
    obtain ⟨tasks, he, -⟩ := releaseSession_eq w d
    exact stays (by rw [he])
  | endService =>
    obtain ⟨tasks, he, -⟩ := endService_eq w
    exact stays (by rw [he])
  | _ => exact Nat.le_refl _

/-- Time does not go back. -/
theorem Chain.now_le {authors : List Author} (h : Chain authors w w') : w.now ≤ w'.now :=
  h.keeps (P := fun u => w.now ≤ u.now) (Nat.le_refl _)
    fun _ _ _ _ hu hc => Nat.le_trans hu hc.now_le

theorem Sound.run_suffix (hw : Sound w) (moves : List Move) :
    w.history <:+ (w.run moves).history := by
  induction moves generalizing w with
  | nil => exact List.suffix_rfl
  | cons m moves ih =>
    obtain ⟨new, hn, -⟩ := (hw.move_chain m).history_eq
    exact (hn ▸ List.suffix_append new w.history).trans (ih (hw.move m))

/-- A retraction that runs is ready when its time is up, and clears its highlight. -/
theorem step_retraction (ht : w.runs t (.retraction h due)) (now : due ≤ w.now) :
    w.isReady t = true ∧
      (w.step t).history = ⟨w.now, .called (.paint h.editor h.decoration [])⟩ :: w.history ∧
      (w.step t).tasks[t]? = some ⟨.retraction h due, false, true⟩ ∧ (w.step t).now = w.now := by
  have ready : w.isReady t = true := by simp [isReady, ht, canRun, now]
  have step : w.step t = (w.retract h).finish t := by simp [Workspace.step, ht, ready]
  rw [step, retract_eq]
  exact ⟨ready, rfl, by simp [finish, ht], rfl⟩

theorem Retracts.move (hr : Retracts w u t h due) (hu : Sound u) (later : w.history <:+ u.history)
    (m : Move) : Retracts w (u.move m) t h due := by
  by_cases own : m = .step t
  · subst own
    show Retracts w (u.step t) t h due
    have idle {ended : Bool} (ht : u.tasks[t]? = some ⟨.retraction h due, false, ended⟩)
        (waits : ended = true ∨ u.now < due) : u.step t = u := by
      have ready : u.isReady t = false := by
        rcases waits with rfl | waits <;> simp [isReady, canRun, *]
      simp [Workspace.step, ht, ready]
    rcases hr with ht | ⟨ht, rest⟩
    · by_cases now : due ≤ u.now
      · obtain ⟨new, hn⟩ := later
        obtain ⟨-, history, ended, same⟩ := step_retraction ht now
        exact .inr ⟨ended, _ :: new, u.now, now, Nat.le_of_eq same.symm, by rw [history, ← hn]; rfl,
          List.mem_cons_self⟩
      · rw [idle ht (.inr (Nat.lt_of_not_le now))]
        exact .inl ht
    · rw [idle ht (.inl rfl)]
      exact .inr ⟨ht, rest⟩
  · rcases hr with ht | ⟨ht, new, time, le, before, hn, mem⟩
    · exact .inl (hu.move_task ht rfl own)
    · have chain := hu.move_chain m
      obtain ⟨more, hm, -⟩ := chain.history_eq
      refine .inr ⟨hu.move_task ht rfl own, more ++ new, time, le, Nat.le_trans before chain.now_le, ?_, ?_⟩
      · rw [hm, hn, List.append_assoc]
      · exact List.mem_append_right more mem

theorem Sound.retracts_run (hu : Sound u) (hr : Retracts w u t h due)
    (later : w.history <:+ u.history) (more : List Move) : Retracts w (u.run more) t h due := by
  induction more using List.reverseRecOn with
  | nil => exact hr
  | append_singleton more m ih =>
    rw [run_concat]
    exact ih.move (hu.run more) (later.trans (hu.run_suffix more)) m

end DiagramLinks
