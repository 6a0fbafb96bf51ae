import Mathlib.Algebra.BigOperators.Group.List.Basic
import Mathlib.Algebra.Ring.Parity
import Mathlib.Data.List.Nodup
import DiagramLinks.Proofs.RevealCourse
import DiagramLinks.Proofs.Turns

namespace DiagramLinks

open Workspace

variable {w u v : Workspace} {s t : TaskNo} {d : DiagramNo} {m : Move} {ts : List TaskNo}
  {before after more : List Move}

/-- The task that a move lets take a step. -/
def Move.stepper? : Move → Option TaskNo
  | .step t => some t
  | _ => none

namespace Workspace

/-- Something holds of every move of a run and of the state in which it is made. -/
def Along (P : Workspace → Move → Prop) (w : Workspace) : List Move → Prop
  | [] => True
  | m :: more => P w m ∧ (w.move m).Along P more

instance decidableAlong (P : Workspace → Move → Prop) [∀ u m, Decidable (P u m)] :
    ∀ (w : Workspace) (moves : List Move), Decidable (w.Along P moves)
  | _, [] => isTrue trivial
  | w, m :: more =>
    have := decidableAlong P (w.move m) more
    inferInstanceAs (Decidable (_ ∧ _))

/-- A request that has not taken a step. -/
def isStarting (w : Workspace) (t : TaskNo) : Bool :=
  match w.tasks[t]? with
  | some ⟨.job _ _ .starting, _, _⟩ => true
  | _ => false

/-- A request that waits for a host. -/
def isInFlight (w : Workspace) (t : TaskNo) : Bool :=
  match w.tasks[t]? with
  | some ⟨.job _ _ (.waiting _), _, _⟩ => true
  | _ => false

/-- A toggle that has ended well. -/
def hasToggled (w : Workspace) (t : TaskNo) : Bool :=
  match w.tasks[t]? with
  | some ⟨.job .toggle _ (.ended (.ok ())), _, true⟩ => true
  | _ => false

/-- How many steps of a task in a run change the activation of a diagram. -/
def flipsBy (w : Workspace) (d : DiagramNo) (t : TaskNo) : List Move → Nat
  | [] => 0
  | m :: more =>
    (if m.stepper? = some t ∧ (w.move m).isActivated d ≠ w.isActivated d then 1 else 0) +
      (w.move m).flipsBy d t more

/-- A toggle is requested in a run, the diagram is active when it starts, and it succeeds. -/
structure Toggles (w : Workspace) (d : DiagramNo) (more : List Move) (t : TaskNo) : Prop where
  called : w.tasks.length ≤ t
  active : w.Along (fun u m => m.stepper? = some t → u.isStarting t = true →
    u.service.active.value = some d) more
  succeeds : (w.run more).hasToggled t = true

instance : Decidable (w.Toggles d more t) :=
  decidable_of_iff (_ ∧ _ ∧ _)
    ⟨fun ⟨called, active, succeeds⟩ => ⟨called, active, succeeds⟩, fun h => ⟨h.called, h.active, h.succeeds⟩⟩

/-- In a run, toggles of a diagram succeed, and nobody else changes its activation. -/
structure OnlyToggled (w : Workspace) (d : DiagramNo) (more : List Move) (ts : List TaskNo) : Prop where
  opened : d < w.diagrams.length
  distinct : ts.Nodup
  toggles : ∀ t ∈ ts, w.Toggles d more t
  alone : w.Along (fun u m => (∃ t ∈ ts, m.stepper? = some t) ∨
    (u.move m).isActivated d = u.isActivated d) more

instance : Decidable (w.OnlyToggled d more ts) :=
  decidable_of_iff (_ ∧ _ ∧ _ ∧ _)
    ⟨fun ⟨opened, distinct, toggles, alone⟩ => ⟨opened, distinct, toggles, alone⟩,
      fun h => ⟨h.opened, h.distinct, h.toggles, h.alone⟩⟩

/-- No two of the toggles wait for the store at the same time. -/
def OneByOne (w : Workspace) (ts : List TaskNo) (more : List Move) : Prop :=
  w.Along (fun u _ => ∀ t ∈ ts, ∀ t' ∈ ts, u.isInFlight t = true → u.isInFlight t' = true → t = t') more

instance : Decidable (w.OneByOne ts more) :=
  inferInstanceAs (Decidable (w.Along _ more))

end Workspace

/-- A toggle starts with a step in `u`, and with its step in `v` the store takes what it writes. -/
structure Workspace.Writes (w : Workspace) (d : DiagramNo) (more : List Move) (t : TaskNo)
    (between : List Move) (u v : Workspace) : Prop where
  parts : ∃ before after, more = before ++ .step t :: (between ++ .step t :: after) ∧ u = w.run before
  waits : v = (u.step t).run between
  starts : u.isStarting t = true
  inFlight : v.isInFlight t = true
  /-- It writes the negation of what it has read. -/
  negates : (v.step t).isActivated d = !u.isActivated d

/-- What toggles do to the activation of a diagram in a run. -/
structure Workspace.Toggled (w : Workspace) (d : DiagramNo) (more : List Move) (ts : List TaskNo) : Prop where
  /-- A toggle takes effect just when the activation has changed an even number of times while it waited. -/
  writes : ∀ t ∈ ts, ∃ between u v, w.Writes d more t between u v ∧
    w.flipsBy d t more = ((u.step t).flips d between + 1) % 2
  /-- The activation is negated once for each toggle that takes effect. -/
  counts : (w.run more).isActivated d =
    not^[(ts.map fun t => w.flipsBy d t more).sum] (w.isActivated d)
  /-- Where no two overlap, each one takes effect. -/
  oneByOne : w.OneByOne ts more → (w.run more).isActivated d = not^[ts.length] (w.isActivated d)

namespace Workspace

variable {P : Workspace → Move → Prop}

theorem along_iff : w.Along P more ↔
    ∀ before m after, more = before ++ m :: after → P (w.run before) m := by
  induction more generalizing w with
  | nil => simp [Along]
  | cons m more ih =>
    rw [Along, ih]
    constructor
    · rintro ⟨first, rest⟩ before m' after split
      cases before with
      | nil =>
        obtain ⟨rfl, rfl⟩ := List.cons.inj split
        exact first
      | cons m'' before =>
        obtain ⟨rfl, rfl⟩ := List.cons.inj split
        exact rest before m' after rfl
    · intro all
      refine ⟨all [] m more rfl, ?_⟩
      rintro before m' after rfl
      exact all (m :: before) m' after rfl

theorem along_append : w.Along P (before ++ more) ↔ w.Along P before ∧ (w.run before).Along P more := by
  induction before generalizing w with
  | nil => exact ⟨fun along => ⟨trivial, along⟩, fun along => along.2⟩
  | cons m before ih =>
    show P w m ∧ (w.move m).Along P (before ++ more) ↔ (P w m ∧ (w.move m).Along P before) ∧ _
    rw [ih, and_assoc]
    rfl

/-- What holds at first and not in the end is left with some move. -/
theorem exists_leaving {Q : Workspace → Prop} (first : Q w) (gone : ¬Q (w.run more)) :
    ∃ before m after, more = before ++ m :: after ∧
      w.Along (fun u m => Q u ∧ Q (u.move m)) before ∧ Q (w.run before) ∧ ¬Q ((w.run before).move m) := by
  induction more generalizing w with
  | nil => exact absurd first gone
  | cons m more ih =>
    by_cases next : Q (w.move m)
    · obtain ⟨before, m', after, rfl, stays, last, left⟩ := ih next gone
      exact ⟨m :: before, m', after, rfl, ⟨⟨first, next⟩, stays⟩, last, left⟩
    · exact ⟨[], m, more, rfl, trivial, first, next⟩

theorem flipsBy_append :
    w.flipsBy d t (before ++ more) = w.flipsBy d t before + (w.run before).flipsBy d t more := by
  induction before generalizing w with
  | nil => simp [flipsBy, run]
  | cons m before ih =>
    rw [List.cons_append, flipsBy, ih, flipsBy, Nat.add_assoc]
    rfl

theorem flipsBy_step : w.flipsBy d t (.step t :: more) =
    (if (w.step t).isActivated d = w.isActivated d then 0 else 1) + (w.step t).flipsBy d t more := by
  show (if _ then 1 else 0) + _ = _
  rw [← ite_not]
  simp only [Move.stepper?, true_and, not_not]
  rfl

/-- The activation is negated once for each change. -/
theorem isActivated_run : (w.run more).isActivated d = not^[w.flips d more] (w.isActivated d) := by
  induction more generalizing w with
  | nil => rfl
  | cons m more ih =>
    show ((w.move m).run more).isActivated d = _
    rw [ih, flips]
    split
    · next same => rw [same, Nat.zero_add]
    · next other =>
      rw [Nat.add_comm, Function.iterate_succ_apply]
      congr 1
      revert other
      cases (w.move m).isActivated d <;> cases w.isActivated d <;> decide

theorem flips_eq_zero (h : w.Along (fun u m => (u.move m).isActivated d = u.isActivated d) more) :
    w.flips d more = 0 := by
  induction more generalizing w with
  | nil => rfl
  | cons m more ih => rw [flips, if_pos h.1, ih h.2]

theorem flipsBy_eq_zero (h : w.Along (fun u m => m.stepper? = some t →
    (u.move m).isActivated d = u.isActivated d) more) : w.flipsBy d t more = 0 := by
  induction more generalizing w with
  | nil => rfl
  | cons m more ih =>
    rw [flipsBy, if_neg, ih h.2]
    rintro ⟨own, other⟩
    exact other (h.1 own)

/-- Where nobody else changes the activation, each change is by one of the tasks. -/
theorem flips_eq_sum (distinct : ts.Nodup) (alone : w.Along (fun u m => (∃ t ∈ ts, m.stepper? = some t) ∨
    (u.move m).isActivated d = u.isActivated d) more) :
    w.flips d more = (ts.map fun t => w.flipsBy d t more).sum := by
  induction more generalizing w with
  | nil => simp [flips, flipsBy]
  | cons m more ih =>
    simp only [flips, flipsBy, List.sum_map_add, ← ih alone.2]
    congr 1
    by_cases same : (w.move m).isActivated d = w.isActivated d
    · simp [same]
    · obtain ⟨t, mem, own⟩ := alone.1.resolve_right same
      have single : (ts.map fun t' => if t' = t then 1 else 0).sum = 1 := by
        rw [List.sum_map_ite]
        simp [List.filter_eq, List.count_eq_one_of_mem distinct mem]
      simp only [same, own, if_false, Option.some.injEq, ne_eq, not_false_eq_true, and_true, eq_comm (a := t)]
      exact single.symm

end Workspace

theorem stepper?_eq_some_iff : m.stepper? = some t ↔ m = .step t := by
  cases m <;> simp [Move.stepper?]

/-- A toggle is yet to start. -/
def Workspace.Upcoming (w : Workspace) (t : TaskNo) (tag : Option String) : Prop :=
  ∀ x, w.tasks[t]? = some x → x = ⟨.job .toggle tag .starting, false, false⟩

namespace Sound

variable {r : Request} {tag : Option String} {q : JobPoint} {aborted ended : Bool}

theorem diagrams_run (hw : Sound w) (moves : List Move) :
    w.diagrams.length ≤ (w.run moves).diagrams.length :=
  hw.keeps_run (P := fun u => w.diagrams.length ≤ u.diagrams.length) (Nat.le_refl _)
    (fun _ hu hc => Nat.le_trans hu (Chain.single hc).diagrams_le) moves

theorem origin_run {x y : Task} (hw : Sound w) (hx : w.tasks[t]? = some x)
    (hy : (w.run more).tasks[t]? = some y) : x.activity.origin = y.activity.origin := by
  have kept := hw.keeps_run (P := fun u => u.spawned[t]? = some x.activity.origin) (spawned_of_task hx)
    (fun _ hu hc => hc.spawned_of hu) more
  exact Option.some.inj (kept.symm.trans (spawned_of_task hy))

theorem upcoming_move (hw : Sound w) (h : w.Upcoming t tag)
    (origin : ∀ x, (w.move m).tasks[t]? = some x → x.activity.origin = .job .toggle tag .starting)
    (other : m ≠ .step t) : (w.move m).Upcoming t tag := by
  rintro ⟨b, aborted, ended⟩ ht
  rcases hw.task_before ht with ⟨x, hx, -⟩ | ⟨-, activity, rfl⟩
  · obtain rfl := h x hx
    exact Option.some.inj (ht.symm.trans (hw.move_task hx rfl other))
  · obtain rfl : b = _ := activity.trans (origin _ ht)
    obtain rfl : aborted = false := (hw.move m).not_aborted ht rfl
    rfl

end Sound

theorem writer_not_mem_concluding : .writer ∉ w.concluding := by
  unfold concluding
  split <;> simp

namespace Sound

variable {r : Request} {tag : Option String} {q : JobPoint}

theorem chain_isActivated {authors : List Author} (hw : Sound w) (hd : d < w.diagrams.length)
    (h : Chain authors w u) (no : .writer ∉ authors) : u.isActivated d = w.isActivated d := by
  obtain ⟨x, hx⟩ := hw.activation hd
  obtain ⟨x', hx', value, -⟩ := h.activation_kept no hx
  rw [isActivated_eq hx', isActivated_eq hx, value]

/-- Only the answer to a call of its own lets a request change an activation. -/
theorem step_isActivated (hw : Sound w) (hd : d < w.diagrams.length) (idle : w.isInFlight t = false)
    (job : ∀ x, w.tasks[t]? = some x → x.activity.origin = .job r tag .starting) :
    (w.step t).isActivated d = w.isActivated d := by
  rcases step_cases w t with same | ⟨b, hb, -⟩ | ⟨b, hb, ready⟩
  · rw [same]
  · cases b with
    | job r tag q => cases hw.not_aborted hb rfl
    | _ => cases job _ hb
  · cases b with
    | job r tag q =>
      rw [step_of_job hb ready]
      cases q with
      | starting =>
        have starts := start_chain w r
        have goesOn := continueJob_chain (w.start r).2 (task_of_chain (starts.mono (by decide)) hb)
        exact ((hw.chain starts).chain_isActivated (Nat.lt_of_lt_of_le hd starts.diagrams_le) goesOn
          writer_not_mem_concluding).trans (hw.chain_isActivated hd starts (by decide))
      | waiting p =>
        have waits : w.isInFlight t = true := by simp only [isInFlight, show w.tasks[t]? = _ from hb]
        rw [idle] at waits
        cases waits
      | ended result => rfl
    | _ => cases job _ hb

end Sound

theorem write_value (x : Watched Bool) (b : Bool) : (x.write b).value = b := by
  unfold Watched.write
  split
  · assumption
  · rfl

theorem modifyActivation_isActivated {x : Watched Bool} (hx : w.activation? d = some x)
    (f : Watched Bool → Watched Bool) : (w.modifyActivation d f).isActivated d = (f x).value := by
  obtain ⟨diagram, hd, hs⟩ := Option.bind_eq_some_iff.mp hx
  rw [modifyActivation_eq hd]
  simp [isActivated, activation?, hd, hs]

theorem answer_storing (w : Workspace) (d : DiagramNo) (b : Bool) :
    ∃ result, (w.answer (.storing d b)).2 = .over result ∧
      (result = .ok () → (w.answer (.storing d b)).1 = w.modifyActivation d (·.write b)) := by
  unfold answer
  split
  · exact ⟨_, rfl, nofun⟩
  · dsimp only
    unfold answerStore
    split
    · exact ⟨_, rfl, nofun⟩
    · split
      · exact ⟨_, rfl, fun _ => rfl⟩
      · exact ⟨_, rfl, nofun⟩

namespace Sound

variable {tag : Option String}

/-- A toggle reads the activation of the active diagram when it starts. -/
theorem toggle_starts (hd : d < w.diagrams.length) (active : w.service.active.value = some d)
    (ht : w.runs t (.job .toggle tag .starting)) :
    ∃ due, (w.step t).runs t (.job .toggle tag (.waiting ⟨.storing d (!w.isActivated d), due⟩)) := by
  have ready : w.isReady t = true := by simp [isReady, show w.tasks[t]? = _ from ht, canRun]
  have starts : w.start .toggle =
      (w.note (.turned w.diagrams[d].id !w.isActivated d)).ask (.storing d !w.isActivated d) := by
    simp only [start, perform, active, Workspace.flip, List.getElem?_eq_getElem hd]
  refine ⟨w.now + w.conduct.latency .storeActivation, ?_⟩
  rw [step_of_job ht ready, stepJob, starts]
  exact runs_moveTo ht

/-- With the answer of the store, a toggle ends. -/
theorem toggle_ends {b : Bool} {due : Nat} (hw : Sound w) (hd : d < w.diagrams.length)
    (ht : w.runs t (.job .toggle tag (.waiting ⟨.storing d b, due⟩))) (ready : w.isReady t = true) :
    ∃ result, (w.step t).tasks[t]? = some ⟨.job .toggle tag (.ended result), false, true⟩ ∧
      (result = .ok () → (w.step t).isActivated d = b) := by
  obtain ⟨result, answer, writes⟩ := answer_storing w d b
  obtain ⟨-, -, -, task⟩ := hw.step_waiting ht ready
  refine ⟨result, by rw [task, answer]; rfl, fun ok => ?_⟩
  have answered := answer_chain w (.storing d b)
  obtain ⟨x, hx⟩ := hw.activation hd
  calc (w.step t).isActivated d
      = ((w.answer (.storing d b)).1.continueJob t .toggle tag (w.answer (.storing d b)).2).isActivated d := by
        rw [step_of_job ht ready, stepJob]
    _ = (w.answer (.storing d b)).1.isActivated d :=
        (hw.chain answered).chain_isActivated (Nat.lt_of_lt_of_le hd answered.diagrams_le)
          (continueJob_chain _ (task_of_chain answered ht)) writer_not_mem_concluding
    _ = b := by rw [writes ok, modifyActivation_isActivated hx, write_value]

end Sound

/-- A run with a toggle, split where the toggle starts and where the store takes what it writes. -/
structure Workspace.Course (w : Workspace) (d : DiagramNo) (more : List Move) (t : TaskNo)
    (before between after : List Move) (u v : Workspace) : Prop where
  split : more = before ++ .step t :: (between ++ .step t :: after)
  start : u = w.run before
  reads : (u.step t).isActivated d = u.isActivated d
  writes : w.Writes d more t between u v
  /-- Before it starts it does nothing, -/
  early : w.flipsBy d t before = 0
  /-- it does nothing while it waits, -/
  waits : (u.step t).Along (fun x m => x.isInFlight t = true ∧ (m = .step t → x.move m = x)) between
  /-- and nothing afterwards. -/
  late : (v.step t).flipsBy d t after = 0

theorem Workspace.Upcoming.isInFlight {tag : Option String} (h : w.Upcoming t tag) : w.isInFlight t = false := by
  unfold Workspace.isInFlight
  cases ht : w.tasks[t]? with
  | none => rfl
  | some x => rw [h x ht]

theorem Workspace.Upcoming.origin {tag : Option String} {x : Task} (h : w.Upcoming t tag)
    (hx : w.tasks[t]? = some x) : x.activity.origin = .job .toggle tag .starting := by
  rw [h x hx]
  rfl

namespace Sound

variable {r : Request} {tag : Option String}

theorem flipsBy_idle (hw : Sound w) (hd : d < w.diagrams.length)
    (idle : w.Along (fun u _ => u.isInFlight t = false ∧
      ∀ x, u.tasks[t]? = some x → x.activity.origin = .job r tag .starting) more) :
    w.flipsBy d t more = 0 := by
  apply flipsBy_eq_zero
  rw [along_iff] at idle ⊢
  intro before m after split own
  obtain rfl := stepper?_eq_some_iff.mp own
  obtain ⟨rests, job⟩ := idle before _ after split
  exact (hw.run before).step_isActivated (Nat.lt_of_lt_of_le hd (hw.diagrams_run before)) rests job

theorem toggle_upcoming (hw : Sound w) (hd : d < w.diagrams.length) (called : w.tasks.length ≤ t)
    {result : Except Problem Unit}
    (ended : (w.run more).tasks[t]? = some ⟨.job .toggle tag (.ended result), false, true⟩) :
    ∃ before rest, more = before ++ .step t :: rest ∧ (w.run before).runs t (.job .toggle tag .starting) ∧
      w.flipsBy d t before = 0 := by
  have first : w.Upcoming t tag := by
    intro x hx
    rw [List.getElem?_eq_none called] at hx
    cases hx
  have gone : ¬(w.run more).Upcoming t tag := by
    intro upcoming
    cases upcoming _ ended
  obtain ⟨before, m, rest, rfl, stays, last, left⟩ := exists_leaving (Q := (·.Upcoming t tag)) first gone
  have sound := hw.run before
  obtain rfl : m = .step t := by
    by_contra other
    refine left (sound.upcoming_move last (fun x hx => ?_) other)
    rw [run_append] at ended
    exact (sound.move m).origin_run hx ended
  refine ⟨before, rest, rfl, ?_, ?_⟩
  · cases ht : (w.run before).tasks[t]? with
    | none =>
      -- A step of no task leaves everything as it was.
      have unready : (w.run before).isReady t = false := by simp [isReady, ht]
      have still : (w.run before).move (.step t) = w.run before := step_of_unready unready
      rw [still] at left
      exact absurd last left
    | some x => rw [runs, ht, last x ht]
  · apply hw.flipsBy_idle hd
    rw [along_iff] at stays ⊢
    intro before' m after split
    have upcoming := (stays before' m after split).1
    exact ⟨upcoming.isInFlight, fun x => upcoming.origin⟩

/-- A toggle that waits and succeeds in the end has its value written. -/
theorem toggle_waits {b : Bool} {due : Nat} (hw : Sound w) (hd : d < w.diagrams.length)
    (ht : w.runs t (.job .toggle tag (.waiting ⟨.storing d b, due⟩)))
    (ended : (w.run more).tasks[t]? = some ⟨.job .toggle tag (.ended (.ok ())), false, true⟩) :
    ∃ between after, more = between ++ .step t :: after ∧
      w.Along (fun x m => x.isInFlight t = true ∧ (m = .step t → x.move m = x)) between ∧
      (w.run between).isInFlight t = true ∧ ((w.run between).step t).isActivated d = b ∧
      ((w.run between).step t).flipsBy d t after = 0 := by
  have gone : ¬(w.run more).runs t (.job .toggle tag (.waiting ⟨.storing d b, due⟩)) := by
    intro waits
    cases waits.symm.trans ended
  obtain ⟨between, m, after, rfl, stays, last, left⟩ :=
    exists_leaving (Q := fun u => u.runs t (.job .toggle tag (.waiting ⟨.storing d b, due⟩))) ht gone
  have sound := hw.run between
  have opened := Nat.lt_of_lt_of_le hd (hw.diagrams_run between)
  -- Only a step of its own task takes a job out of the call it rests in.
  obtain rfl : m = .step t := by
    by_contra other
    exact left (sound.move_task last rfl other)
  have ready : (w.run between).isReady t = true := by
    by_contra unready
    have still : (w.run between).move (.step t) = w.run between := step_of_unready (by simpa using unready)
    rw [still] at left
    exact left last
  obtain ⟨result, task, writes⟩ := sound.toggle_ends opened last ready
  have settled (later : List Move) := (sound.move (.step t)).job_ended task later
  obtain rfl : result = .ok () := by
    rw [run_append] at ended
    cases (settled after).symm.trans ended
    rfl
  refine ⟨between, after, rfl, along_iff.mpr fun before m' rest split => ?_, ?_, writes rfl, ?_⟩
  -- While it waited, no step of its own was ready, since a ready one would have ended it.
  · obtain ⟨waits, next⟩ := along_iff.mp stays before m' rest split
    refine ⟨by simp only [isInFlight, show (w.run before).tasks[t]? = _ from waits], ?_⟩
    rintro rfl
    apply step_of_unready
    by_contra ready'
    have still := Nat.lt_of_lt_of_le hd (hw.diagrams_run before)
    obtain ⟨result', task', -⟩ := (hw.run before).toggle_ends still waits (by simpa using ready')
    cases next.symm.trans task'
  · simp only [isInFlight, show (w.run between).tasks[t]? = _ from last]
  · apply (sound.move (.step t)).flipsBy_idle (Nat.lt_of_lt_of_le opened (sound.diagrams_run [.step t]))
    refine along_iff.mpr fun before m' rest split => ⟨?_, fun x hx => ?_⟩
    · simp only [isInFlight, settled before]
    · obtain rfl := Option.some.inj (hx.symm.trans (settled before))
      rfl

end Sound

namespace Workspace.Toggles

theorem ended (h : w.Toggles d more t) (hw : Sound w) :
    ∃ tag, (w.run more).tasks[t]? = some ⟨.job .toggle tag (.ended (.ok ())), false, true⟩ := by
  have succeeds := h.succeeds
  unfold hasToggled at succeeds
  split at succeeds
  · next tag aborted ht =>
    obtain rfl : aborted = false := (hw.run more).not_aborted ht rfl
    exact ⟨tag, ht⟩
  · cases succeeds

theorem origin (h : w.Toggles d more t) (hw : Sound w) : ∃ tag, ∀ before after, more = before ++ after →
    ∀ x, (w.run before).tasks[t]? = some x → x.activity.origin = .job .toggle tag .starting := by
  obtain ⟨tag, ended⟩ := h.ended hw
  refine ⟨tag, ?_⟩
  rintro before after rfl x hx
  rw [run_append] at ended
  exact (hw.run before).origin_run hx ended

theorem course (h : w.Toggles d more t) (hw : Sound w) (opened : d < w.diagrams.length) :
    ∃ before between after u v, w.Course d more t before between after u v := by
  obtain ⟨tag, ended⟩ := h.ended hw
  obtain ⟨before, rest, rfl, upcoming, early⟩ := hw.toggle_upcoming opened h.called ended
  have starts : (w.run before).isStarting t = true := by
    simp only [isStarting, show (w.run before).tasks[t]? = _ from upcoming]
  have there := Nat.lt_of_lt_of_le opened (hw.diagrams_run before)
  have active := along_iff.mp h.active before _ rest rfl rfl starts
  obtain ⟨due, waits⟩ := Sound.toggle_starts there active upcoming
  have reads : ((w.run before).step t).isActivated d = (w.run before).isActivated d := by
    apply (hw.run before).step_isActivated there
    · simp only [isInFlight, show (w.run before).tasks[t]? = _ from upcoming]
    · rintro x hx
      obtain rfl := Option.some.inj (hx.symm.trans upcoming)
      rfl
  have later := Nat.lt_of_lt_of_le there ((hw.run before).diagrams_run [.step t])
  rw [run_append] at ended
  obtain ⟨between, after, rfl, along, inFlight, negates, late⟩ :=
    ((hw.run before).move (.step t)).toggle_waits later waits ended
  exact ⟨before, between, after, _, _, rfl, rfl, reads,
    ⟨⟨before, after, rfl, rfl⟩, rfl, starts, inFlight, negates⟩, early, along, late⟩

end Workspace.Toggles

namespace Workspace.Course

variable {between : List Move}

theorem part (h : w.Course d more t before between after u v) {P : Workspace → Move → Prop}
    (along : w.Along P more) : (u.step t).Along P between := by
  rw [h.split, along_append, ← h.start] at along
  exact (along_append.mp along.2.2).1

/-- A toggle takes effect just when the activation is what it was when it was read. -/
theorem flipsBy_eq (h : w.Course d more t before between after u v) :
    w.flipsBy d t more = ((u.step t).flips d between + 1) % 2 := by
  have resting : (u.step t).flipsBy d t between = 0 := by
    apply flipsBy_eq_zero
    rw [along_iff]
    intro before' m after' split own
    rw [(along_iff.mp h.waits before' m after' split).2 (stepper?_eq_some_iff.mp own)]
  have total : w.flipsBy d t more = if (v.step t).isActivated d = v.isActivated d then 0 else 1 := by
    rw [h.split, flipsBy_append, h.early, ← h.start, flipsBy_step, if_pos h.reads, flipsBy_append, resting,
      ← h.writes.waits, flipsBy_step, h.late]
    simp only [Nat.zero_add, Nat.add_zero]
  have value : v.isActivated d = not^[(u.step t).flips d between] (u.isActivated d) := by
    rw [h.writes.waits, isActivated_run, h.reads]
  rw [total, h.writes.negates, value]
  rcases Nat.even_or_odd ((u.step t).flips d between) with even | odd
  · rw [Bool.involutive_not.iterate_even even, id_eq, if_neg (by simp), Nat.add_mod, Nat.even_iff.mp even]
  · rw [Bool.involutive_not.iterate_odd odd, if_pos rfl, Nat.add_mod, Nat.odd_iff.mp odd]

end Workspace.Course

namespace Workspace.OnlyToggled

/-- While it waits alone, nothing changes the activation that a toggle has read. -/
theorem undisturbed (h : w.OnlyToggled d more ts) (hw : Sound w) (mem : t ∈ ts) (apart : w.OneByOne ts more)
    {between : List Move} (course : w.Course d more t before between after u v) :
    (u.step t).flips d between = 0 := by
  apply flips_eq_zero
  rw [along_iff]
  intro before' m after' split
  have opened := Nat.lt_of_lt_of_le h.opened (hw.diagrams_run (before ++ .step t :: before'))
  have sound := hw.run (before ++ .step t :: before')
  have here : w.run (before ++ .step t :: before') = (u.step t).run before' := by
    rw [run_append, course.start]
    rfl
  rw [here] at opened sound
  obtain ⟨inFlight, still⟩ := along_iff.mp course.waits before' m after' split
  rcases along_iff.mp (course.part h.alone) before' m after' split with ⟨t', mem', own⟩ | same
  swap
  · exact same
  obtain rfl := stepper?_eq_some_iff.mp own
  by_cases waits : ((u.step t).run before').isInFlight t' = true
  · obtain rfl := along_iff.mp (course.part apart) before' _ after' split t mem t' mem' inFlight waits
    rw [still rfl]
  · obtain ⟨tag, origin⟩ := (h.toggles t' mem').origin hw
    apply sound.step_isActivated opened (by simpa using waits)
    rw [← here]
    apply origin _ (.step t' :: (after' ++ .step t :: after))
    rw [course.split, split]
    simp

theorem toggled (h : w.OnlyToggled d more ts) (hw : Sound w) : w.Toggled d more ts := by
  have counts : (w.run more).isActivated d = not^[(ts.map fun t => w.flipsBy d t more).sum] (w.isActivated d) := by
    rw [isActivated_run, flips_eq_sum h.distinct h.alone]
  refine ⟨fun t mem => ?_, counts, fun apart => ?_⟩
  · obtain ⟨before, between, after, u, v, course⟩ := (h.toggles t mem).course hw h.opened
    exact ⟨between, u, v, course.writes, course.flipsBy_eq⟩
  · have each : ∀ t ∈ ts, w.flipsBy d t more = 1 := by
      intro t mem
      obtain ⟨before, between, after, u, v, course⟩ := (h.toggles t mem).course hw h.opened
      rw [course.flipsBy_eq, h.undisturbed hw mem apart course]
    rw [counts, List.map_congr_left each]
    simp

end Workspace.OnlyToggled

/-- Toggles of the active diagram, of which nobody else changes the activation: what each of them does, and
what all of them do. -/
theorem run_toggled (settings : Settings) (visible : List Url) (symbols : List Symbol) (conduct : Conduct)
    (moves : List Move) (h : ((Workspace.new settings visible symbols conduct).run moves).OnlyToggled d more ts) :
    ((Workspace.new settings visible symbols conduct).run moves).Toggled d more ts :=
  h.toggled ((Sound.new settings visible symbols conduct).run moves)

/-- A diagram is active, and its store takes its time. -/
def slowStore (id : Url) : List Move :=
  [.openDiagram id (.fresh false) false true, .focusDiagram (some id), .setLatency .storeActivation 30]

/-- A toggle that is requested while another one waits, and starts after it, is not lost. -/
theorem apart_toggled :
    let w := (Workspace.new .default [] [] (.prompt false false)).run
      (slowStore ⟨"file:///a.drawio", by decide +kernel⟩)
    let more : List Move := [.request .toggle (some "first"), .step 2, .request .toggle (some "second"), .wait 30,
      .step 2, .step 3, .wait 30, .step 3]
    w.OnlyToggled 0 more [2, 3] ∧ w.OneByOne [2, 3] more ∧ w.Toggled 0 more [2, 3] ∧
      (w.run more).isActivated 0 = not^[2] (w.isActivated 0) := by
  intro w more
  have only : w.OnlyToggled 0 more [2, 3] := by decide +kernel
  have apart : w.OneByOne [2, 3] more := by decide +kernel
  have toggled := run_toggled .default [] [] (.prompt false false) _ only
  exact ⟨only, apart, toggled, toggled.oneByOne apart⟩

/-- Of two toggles that wait for the store at the same time, one is lost. -/
theorem overlap_loses :
    let w := (Workspace.new .default [] [] (.prompt false false)).run
      (slowStore ⟨"file:///a.drawio", by decide +kernel⟩)
    let more : List Move := [.request .toggle (some "first"), .step 2, .setLatency .storeActivation 50,
      .request .toggle (some "second"), .step 3, .wait 30, .step 2, .wait 20, .step 3]
    w.OnlyToggled 0 more [2, 3] ∧ w.isActivated 0 = false ∧
      (w.run more).isActivated 0 ≠ not^[2] (w.isActivated 0) :=
  ⟨by decide +kernel, by decide +kernel, by decide +kernel⟩

end DiagramLinks
