import Mathlib.Data.Finset.Option
import Mathlib.Data.List.Infix
import DiagramLinks.Proofs.SelectionMode
import DiagramLinks.Proofs.StatusIndicator

namespace DiagramLinks

open Workspace

variable {a : Author} {authors : List Author} {w w' : Workspace} {d : DiagramNo} {p q : StatusPoint}

/-- What can happen around the status indicator: any move, and what is done to the active diagram and to
its task from outside of a service. -/
inductive Impulse
  | move (m : Move)
  | setActive (d : Option DiagramNo)
  | endActive
  | cancelStatus

/-- A step of the status indicator's task. -/
abbrev Impulse.poll : Impulse := .move (.step statusTask)

/-- The diagram that is watched at a point, behind the number of the change of the active diagram that led
there. -/
def StatusPoint.watches? : StatusPoint → Option (Nat × DiagramNo)
  | watching seen d _ _ => some (seen, d)
  | _ => none

namespace Workspace

def receive (w : Workspace) : Impulse → Workspace
  | .move m => w.move m
  | .setActive d => w.setActive d
  | .endActive => w.endActive
  | .cancelStatus => w.cancelStatus

def receiveAll (w : Workspace) (more : List Impulse) : Workspace :=
  more.foldl receive w

/-- How many impulses count, each judged by the workspace that it meets. -/
def countAlong (w : Workspace) (counts : Workspace → Impulse → Bool) : List Impulse → Nat
  | [] => 0
  | i :: more => (counts w i).toNat + (w.receive i).countAlong counts more

/-- The task has not taken its first step. -/
abbrev IndicatorStarts (w : Workspace) : Prop :=
  w.runs statusTask (.status [0] .starting)

/-- The task is cancelled, or no diagram can become active any more. -/
def IndicatorEnds (w : Workspace) : Prop :=
  w.service.scope.isCancelled [0] = true ∨ w.service.active.live = false

/-- What the task watches. -/
def watched? (w : Workspace) : Option (Nat × DiagramNo) :=
  match w.tasks[statusTask]? with
  | some ⟨.status _ p, _, false⟩ => p.watches?
  | _ => none

/-- Whether an impulse finds the task ready for a step and takes it. -/
def polls (w : Workspace) : Impulse → Bool
  | .move (.step t) => t == statusTask && w.isReady statusTask
  | _ => false

/-- Whether an impulse changes the activation that the task watches. -/
def writesWatched (w : Workspace) (i : Impulse) : Bool :=
  w.watched?.any fun (_, d) => (w.receive i).isActivated d != w.isActivated d

/-- The period in which the task is, if the store that it watches is closed. A period goes by the number of
the change of the active diagram that began it, and it ends when the task sees another one. -/
def closedPeriod? (w : Workspace) : Option Nat :=
  (w.watched?.filter fun (_, d) => (w.activation? d).any (!·.live)).map Prod.fst

/-- The periods of a run in which the task watched a store that was or became closed. -/
def closedPeriods (w : Workspace) (more : List Impulse) : Finset Nat :=
  (more.inits.filterMap fun past => (w.receiveAll past).closedPeriod?).toFinset

end Workspace

/-- The status indicator's task is never busy for long, from a workspace on. -/
structure ComesToRest (w : Workspace) (more : List Impulse) : Prop where
  /-- What was shown since the start answers the start, changes of the active diagram, writes of another
  value to the watched store, and periods with a closed store, each of them once. -/
  bounded : w.IndicatorStarts → (w.receiveAll more).indications.length ≤
    1 + ((w.receiveAll more).service.active.changes - w.service.active.changes) +
      w.countAlong writesWatched more + (w.closedPeriods more).card
  /-- No step is idle but one that ends the task. -/
  busy : w.IndicatorStarts →
    w.countAlong polls more ≤ (w.receiveAll more).indications.length + 1
  /-- With nothing else in between, the task waits after two steps at most. Then it has shown how things
  stand, even if the store is closed, unless it has reason to end. -/
  rests : ∃ n ≤ 2, ∃ u, u = (w.receiveAll more).receiveAll (.replicate n .poll) ∧
    u.isReady statusTask = false ∧ (u.IndicatorEnds ∨
      u.indications.getLast? = some (.ofState (w.receiveAll more).activeState))
  /-- A value that was written before the store was closed is shown by the next step. -/
  pending : ∀ seen d seenActivation storeOpen x,
    (w.receiveAll more).runs statusTask (.status [0] (.watching seen d seenActivation storeOpen)) →
    seen = (w.receiveAll more).service.active.changes → ¬(w.receiveAll more).IndicatorEnds →
    (w.receiveAll more).activation? d = some x → x.live = false → seenActivation ≠ x.changes →
      (w.receiveAll more).isReady statusTask = true ∧
        (w.receiveAll (more ++ [.poll])).indications =
          (w.receiveAll more).indications ++ [.ofActivation x.value]
  /-- The next step after a change of the active diagram shows that diagram, whatever became of the store
  that was watched. -/
  follows : ∀ p seen, (w.receiveAll more).runs statusTask (.status [0] p) → p.seen? = some seen →
    seen ≠ (w.receiveAll more).service.active.changes →
    (w.receiveAll more).service.scope.isCancelled [0] = false →
      (w.receiveAll more).isReady statusTask = true ∧
        (w.receiveAll (more ++ [.poll])).indications =
          (w.receiveAll more).indications ++ [.ofState (w.receiveAll more).activeState]
  /-- The task stops only when it is cancelled or no diagram can become active any more. -/
  ends : ∀ task, (w.receiveAll more).tasks[statusTask]? = some task →
    task.aborted = true ∨ task.ended = true → (w.receiveAll more).IndicatorEnds

theorem receiveAll_append (w : Workspace) (more rest : List Impulse) :
    w.receiveAll (more ++ rest) = (w.receiveAll more).receiveAll rest :=
  List.foldl_append

theorem receiveAll_concat (w : Workspace) (more : List Impulse) (i : Impulse) :
    w.receiveAll (more ++ [i]) = (w.receiveAll more).receive i :=
  receiveAll_append w more [i]

theorem countAlong_concat (w : Workspace) (counts : Workspace → Impulse → Bool) (more : List Impulse)
    (i : Impulse) :
    w.countAlong counts (more ++ [i]) = w.countAlong counts more + (counts (w.receiveAll more) i).toNat := by
  induction more generalizing w with
  | nil => exact Nat.add_comm _ _
  | cons j more ih =>
    rw [List.cons_append, countAlong, ih, countAlong, Nat.add_assoc]
    rfl

theorem closedPeriods_concat (w : Workspace) (more : List Impulse) (i : Impulse) :
    w.closedPeriods (more ++ [i]) =
      w.closedPeriods more ∪ ((w.receiveAll more).receive i).closedPeriod?.toFinset := by
  have last : (more ++ [i]).inits = more.inits ++ [more ++ [i]] := by
    simp [List.inits_append, List.inits]
  ext s
  simp [closedPeriods, last, receiveAll_concat]

theorem setActive_cases (w : Workspace) (v : Option DiagramNo) :
    w.setActive v = w ∨ Change .service w (w.setActive v) := by
  unfold setActive
  split
  · refine .inr (.activate fun d hd => ?_)
    simpa using (Option.filter_eq_some_iff.mp hd).2
  · exact .inl rfl

theorem Sound.receive (hw : Sound w) (i : Impulse) : Sound (w.receive i) := by
  cases i with
  | move m => exact hw.move m
  | setActive v =>
    show Sound (w.setActive v)
    rcases setActive_cases w v with same | hc
    · rwa [same]
    · exact hw.change hc
  | endActive =>
    exact ⟨hw.roster, hw.aborted, hw.store, hw.tracked, hw.cancelled, hw.own, hw.ended, hw.registry,
      hw.active⟩
  | cancelStatus =>
    exact ⟨hw.roster, hw.aborted, hw.store, hw.tracked, hw.cancelled, hw.own,
      fun token ht => (List.mem_cons.mp ht).elim id (hw.ended token), hw.registry, hw.active⟩

theorem Sound.receiveAll (hw : Sound w) (more : List Impulse) : Sound (w.receiveAll more) := by
  induction more generalizing w with
  | nil => exact hw
  | cons i more ih => exact ih (hw.receive i)

/-- The task has reason to end now, and has shown what it had shown. -/
theorem Minds.of_service (hi : Minds w) {service : Service}
    (changes : service.active.changes = w.service.active.changes)
    (value : service.active.value = w.service.active.value)
    (why : service.scope.isReleased = true ∨ service.active.live = false) :
    Minds { w with service } := by
  obtain ⟨p, aborted, ended, ht, known, -⟩ := hi.task
  exact ⟨p, aborted, ended, ht, known.later (.inr ⟨changes, value⟩) rfl fun d x hx =>
    ⟨x, hx, Nat.le_refl _, fun _ => rfl, fun _ => rfl⟩, fun _ => why⟩

theorem Minds.receive (hi : Minds w) (hw : Sound w) (i : Impulse) : Minds (w.receive i) := by
  cases i with
  | move m => exact hw.keeps_chain hi (fun hu hi hc => hi.change hu hc) (hw.move_chain m)
  | setActive v =>
    show Minds (w.setActive v)
    rcases setActive_cases w v with same | hc
    · rwa [same]
    · exact hi.change hw hc
  | endActive => exact hi.of_service rfl rfl (.inr rfl)
  | cancelStatus => exact hi.of_service rfl rfl (.inl rfl)

theorem Minds.receiveAll (hi : Minds w) (hw : Sound w) (more : List Impulse) :
    Minds (w.receiveAll more) := by
  induction more generalizing w with
  | nil => exact hi
  | cons i more ih => exact ih (hi.receive hw i) (hw.receive i)

/-- What the task can meet when something else than its step has happened. -/
structure News (w w' : Workspace) : Prop where
  task : ∀ {p aborted ended}, w.tasks[statusTask]? = some ⟨.status [0] p, aborted, ended⟩ →
    ∃ aborted', w'.tasks[statusTask]? = some ⟨.status [0] p, aborted', ended⟩
  silent : w'.indications = w.indications
  active : w.service.active.changes ≤ w'.service.active.changes
  store : ∀ {d x}, w.activation? d = some x → ∃ x', w'.activation? d = some x' ∧
    (x.live = false → x' = x) ∧ x'.changes ≤ x.changes + if x'.value = x.value then 0 else 1

theorem Change.active_le (h : Change a w w') :
    w.service.active.changes ≤ w'.service.active.changes := by
  by_cases ha : a = .service
  · subst ha
    cases h with
    | activate valid => exact Nat.le_succ _
    | release d =>
      obtain ⟨tasks, he, -⟩ := releaseSession_eq w d
      rw [he]
    | endService =>
      obtain ⟨tasks, he, -⟩ := endService_eq w
      rw [he]
      exact Nat.le_refl _
    | _ => exact Nat.le_refl _
  · obtain ⟨settings, editor, he⟩ := h.service_eq ha
    rw [he]

theorem Chain.active_le (h : Chain authors w w') :
    w.service.active.changes ≤ w'.service.active.changes :=
  h.keeps (P := fun u => w.service.active.changes ≤ u.service.active.changes) (Nat.le_refl _)
    fun _ _ _ _ le hc => Nat.le_trans le hc.active_le

theorem Chain.closed_stays {x : Watched Bool} (h : Chain authors w w') (hx : w.activation? d = some x)
    (closed : x.live = false) : w'.activation? d = some x := by
  refine h.keeps (P := fun u => u.activation? d = some x) hx ?_
  intro a ha u u' hu hc
  obtain ⟨x', hx', later⟩ := hc.later hu
  rw [hx', later.closed closed]

namespace News

theorem refl (w : Workspace) : News w w where
  task ht := ⟨_, ht⟩
  silent := rfl
  active := Nat.le_refl _
  store hx := ⟨_, hx, fun _ => rfl, by simp⟩

theorem move (hw : Sound w) (m : Move) (no : Author.status ∉ w.authors m) : News w (w.move m) where
  task ht := (hw.move_chain m).status_task no ht
  silent := (hw.move_chain m).indications_eq no
  active := (hw.move_chain m).active_le
  store hx := by
    obtain ⟨x', hx', once⟩ := hw.move_changes m hx
    refine ⟨x', hx', fun closed => ?_, once⟩
    exact Option.some.inj (hx'.symm.trans ((hw.move_chain m).closed_stays hx closed))

/-- What is done to the service alone. -/
theorem of_service {service : Service}
    (active : w.service.active.changes ≤ service.active.changes) : News w { w with service } where
  task ht := ⟨_, ht⟩
  silent := rfl
  active := active
  store hx := ⟨_, hx, fun _ => rfl, by simp⟩

end News

/-- An impulse is a step of the task, or it does no more than bring news. -/
theorem Sound.receive_cases (hw : Sound w) (i : Impulse) :
    i = .poll ∧ w.isReady statusTask = true ∨ w.polls i = false ∧ News w (w.receive i) := by
  cases i with
  | move m =>
    by_cases step : m = .step statusTask
    · subst step
      cases ready : w.isReady statusTask with
      | true => exact .inl ⟨rfl, rfl⟩
      | false =>
        have same : w.receive .poll = w := step_of_unready ready
        exact .inr ⟨by simp [polls, ready], by rw [same]; exact .refl w⟩
    · refine .inr ⟨?_, .move hw m ((hw.status_authors m).resolve_left fun h => step h.1)⟩
      cases m with
      | step t =>
        have other : t ≠ statusTask := fun eq => step (congrArg _ eq)
        simp [polls, other]
      | _ => rfl
  | setActive v =>
    refine .inr ⟨rfl, ?_⟩
    show News w (w.setActive v)
    unfold setActive
    split
    · exact .of_service (Nat.le_succ _)
    · exact .refl w
  | endActive => exact .inr ⟨rfl, .of_service (Nat.le_refl _)⟩
  | cancelStatus => exact .inr ⟨rfl, .of_service (Nat.le_refl _)⟩

theorem StatusPoint.Knows.seen_le {seen : Nat} (h : p.Knows w) (hp : p.seen? = some seen) :
    seen ≤ w.service.active.changes := by
  cases p with
  | starting => cases hp
  | hidden n => exact Option.some.inj hp ▸ h.1
  | watching n d x o => exact Option.some.inj hp ▸ h.1

/-- From where to where the task goes when it shows how things stand. -/
inductive Showing (w : Workspace) : StatusPoint → StatusPoint → Prop
  | hides {p : StatusPoint} (news : p.seen? ≠ some w.service.active.changes)
      (inactive : w.service.active.value = none) :
      Showing w p (.hidden w.service.active.changes)
  | looks {p : StatusPoint} {d : DiagramNo} {x} (news : p.seen? ≠ some w.service.active.changes)
      (active : w.service.active.value = some d) (hx : w.activation? d = some x) :
      Showing w p (.watching w.service.active.changes d x.changes true)
  /-- The activation was written. -/
  | again {d : DiagramNo} {seenActivation x} (hx : w.activation? d = some x)
      (news : seenActivation ≠ x.changes) :
      Showing w (.watching w.service.active.changes d seenActivation true)
        (.watching w.service.active.changes d x.changes true)
  /-- The store was closed, and the task waits for it no longer. -/
  | leaves {d : DiagramNo} {x} (hx : w.activation? d = some x) (closed : x.live = false)
      (going : ¬w.IndicatorEnds) :
      Showing w (.watching w.service.active.changes d x.changes true)
        (.watching w.service.active.changes d x.changes false)

/-- Shows how things stand; the task goes to a point. -/
def Workspace.showState (w : Workspace) (q : StatusPoint) : Workspace :=
  (w.indicate (.ofState w.activeState)).moveTo statusTask (.status [0] q)

/-- What a step of the running task does. -/
inductive StatusStep (w : Workspace) (p : StatusPoint) : Workspace → Prop
  | ends (why : w.service.scope.isCancelled [0] = true ∨
      w.service.active.live = false ∧ p.seen? = some w.service.active.changes) :
      StatusStep w p (w.finish statusTask)
  | shows {q : StatusPoint} (goes : Showing w p q) :
      StatusStep w p (w.showState q)

theorem Showing.step {shown : Option Bool} (goes : Showing w p q) (state : w.activeState = shown) :
    StatusStep w p ((w.indicate (.ofState shown)).moveTo statusTask (.status [0] q)) :=
  state ▸ StatusStep.shows goes

theorem lookAtActive_step (hw : Sound w) (news : p.seen? ≠ some w.service.active.changes) :
    StatusStep w p (w.lookAtActive statusTask [0]) := by
  cases active : w.service.active.value with
  | none =>
    have hidden : w.activeState = none := by rw [activeState, active, Option.map_none]
    simpa [lookAtActive, active, Indicator.ofState] using (Showing.hides news active).step hidden
  | some d =>
    obtain ⟨x, hx⟩ := hw.activation (hw.active d active)
    have shown := activeState_of_watched active hx
    simpa [lookAtActive, active, hx, Indicator.ofState] using (Showing.looks news active hx).step shown

/-- The step of a task that is ready for the store alone. -/
theorem watching_step {seenActivation : Nat} {x : Watched Bool}
    (going : w.service.scope.isCancelled [0] = false) (live : w.service.active.live = true)
    (active : w.service.active.value = some d) (hx : w.activation? d = some x)
    (due : x.isNews seenActivation = true ∨ x.live = false) :
    StatusStep w (.watching w.service.active.changes d seenActivation true)
      (w.stepStatus statusTask [0] (.watching w.service.active.changes d seenActivation true)) := by
  have settled : w.service.active.isNews w.service.active.changes = false := isNews_eq_false.mpr rfl
  have shown := activeState_of_watched active hx
  cases news : x.isNews seenActivation with
  | true =>
    have ne : seenActivation ≠ x.changes := fun eq => by simp [isNews_eq_false.mpr eq] at news
    have step := (Showing.again hx ne).step shown
    simpa [stepStatus, going, settled, live, hx, news, Indicator.ofState] using step
  | false =>
    obtain rfl := isNews_eq_false.mp news
    have closed : x.live = false := by simpa [news] using due
    have goesOn : ¬w.IndicatorEnds := by simp [IndicatorEnds, going, live]
    have step := (Showing.leaves hx closed goesOn).step shown
    simpa [stepStatus, going, settled, live, hx, news, closed, Indicator.ofState] using step

theorem Minds.step (hi : Minds w) (hw : Sound w) (ht : w.runs statusTask (.status [0] p))
    (ready : w.isReady statusTask = true) : StatusStep w p (w.step statusTask) := by
  have goes : w.step statusTask = w.stepStatus statusTask [0] p := by simp [Workspace.step, ht, ready]
  have can : w.canRun (.status [0] p) = true := isReady_of_runs ht ▸ ready
  obtain ⟨-, known, -⟩ := hi.of_task ht
  -- News of the active diagram leads to a look at it, wherever the task stands.
  have looks {seen : Nat} (hp : p.seen? = some seen) (news : w.service.active.isNews seen = true) :
      StatusStep w p (w.lookAtActive statusTask [0]) := by
    refine lookAtActive_step hw fun eq => ?_
    obtain rfl := Option.some.inj (hp.symm.trans eq)
    simp [isNews_eq_false.mpr] at news
  rw [goes]
  cases p with
  | starting => exact lookAtActive_step hw (by simp [StatusPoint.seen?])
  | hidden seen =>
    cases cancelled : w.service.scope.isCancelled [0] with
    | true => simpa [stepStatus, cancelled] using StatusStep.ends (.inl cancelled)
    | false =>
      cases news : w.service.active.isNews seen with
      | true => simpa [stepStatus, cancelled, news] using looks rfl news
      | false =>
        have closed : w.service.active.live = false := by simpa [canRun, cancelled, news] using can
        obtain rfl := isNews_eq_false.mp news
        simpa [stepStatus, cancelled, news, closed] using StatusStep.ends (.inr ⟨closed, rfl⟩)
  | watching seen d seenActivation storeOpen =>
    obtain ⟨-, active, x, hx, -⟩ := known
    cases cancelled : w.service.scope.isCancelled [0] with
    | true => simpa [stepStatus, cancelled] using StatusStep.ends (.inl cancelled)
    | false =>
      cases news : w.service.active.isNews seen with
      | true => simpa [stepStatus, cancelled, news] using looks rfl news
      | false =>
        obtain rfl := isNews_eq_false.mp news
        cases live : w.service.active.live with
        | false => simpa [stepStatus, cancelled, news, live] using StatusStep.ends (.inr ⟨live, rfl⟩)
        | true =>
          obtain ⟨rfl, due⟩ : storeOpen = true ∧ (x.isNews seenActivation = true ∨ x.live = false) := by
            simpa [canRun, cancelled, news, live, hx] using can
          exact watching_step cancelled live (active rfl) hx due

/-- A step of a task that is ready ends it or shows how things stand. -/
theorem Minds.poll_cases (hi : Minds w) (hw : Sound w) (ready : w.isReady statusTask = true) :
    ∃ p aborted, w.tasks[statusTask]? = some ⟨.status [0] p, aborted, false⟩ ∧
      (w.step statusTask = w.finish statusTask ∨
        aborted = false ∧ ∃ q, Showing w p q ∧ w.step statusTask = w.showState q) := by
  obtain ⟨p, aborted, ended, ht, -⟩ := hi.task
  obtain rfl : ended = false := by
    simp only [isReady, ht] at ready
    simp_all
  refine ⟨p, aborted, ht, ?_⟩
  cases aborted with
  | true => exact .inl (by simp [Workspace.step, ht, ready, drop])
  | false =>
    have step := hi.step hw ht ready
    generalize w.step statusTask = w' at step ⊢
    cases step with
    | ends why => exact .inl rfl
    | shows goes => exact .inr ⟨rfl, _, goes, rfl⟩

theorem showState_indications (w : Workspace) (q : StatusPoint) :
    (w.showState q).indications = w.indications ++ [.ofState w.activeState] := by
  simp [indications, timeline, showState, moveTo, indicate, record]

/-- A step of a task that is ready shows how things stand, unless the task has reason to end. -/
theorem Minds.step_shows (hi : Minds w) (hw : Sound w) (ht : w.runs statusTask (.status [0] p))
    (ready : w.isReady statusTask = true) (going : w.service.scope.isCancelled [0] = false)
    (lasts : w.service.active.live = true ∨ p.seen? ≠ some w.service.active.changes) :
    (w.step statusTask).indications = w.indications ++ [.ofState w.activeState] := by
  have step := hi.step hw ht ready
  generalize w.step statusTask = w' at step ⊢
  cases step with
  | ends why =>
    rcases why with cancelled | ⟨closed, seen⟩
    · simp [going] at cancelled
    · simp [closed, seen] at lasts
  | shows goes => exact showState_indications w _

theorem isReady_finish (w : Workspace) (t : TaskNo) : (w.finish t).isReady t = false := by
  cases ht : w.tasks[t]? <;> simp [isReady, finish, ht]

/-- Nothing that is shown was written or became active since. -/
def StatusPoint.IsCaughtUp (w : Workspace) (q : StatusPoint) : Prop :=
  q.seen? = some w.service.active.changes ∧
    ∀ seen d seenActivation storeOpen x, q = .watching seen d seenActivation storeOpen →
      w.activation? d = some x → seenActivation = x.changes

theorem Showing.isCaughtUp (h : Showing w p q) : q.IsCaughtUp (w.showState q) := by
  have same {e : DiagramNo} {x y : Watched Bool} (hx : w.activation? e = some x)
      (hy : w.activation? e = some y) :
      x.changes = y.changes := by
    rw [Option.some.inj (hx.symm.trans hy)]
  cases h with
  | hides news inactive => exact ⟨rfl, fun _ _ _ _ _ eq => nomatch eq⟩
  | looks news active hx => exact ⟨rfl, by rintro _ _ _ _ y ⟨⟩ hy; exact same hx hy⟩
  | again hx news => exact ⟨rfl, by rintro _ _ _ _ y ⟨⟩ hy; exact same hx hy⟩
  | leaves hx closed going => exact ⟨rfl, by rintro _ _ _ _ y ⟨⟩ hy; exact same hx hy⟩

/-- A task that shows what it has shown already does so because the store was closed, and then waits. -/
theorem StatusPoint.IsCaughtUp.waits (h : p.IsCaughtUp w) (ht : w.runs statusTask (.status [0] p))
    (goes : Showing w p q) : (w.showState q).isReady statusTask = false := by
  have runs : (w.showState q).runs statusTask (.status [0] q) := runs_moveTo ht
  rw [isReady_of_runs runs]
  cases goes with
  | hides news inactive => exact absurd h.1 news
  | looks news active hx => exact absurd h.1 news
  | again hx news => exact absurd (h.2 _ _ _ _ _ rfl hx) news
  | leaves hx closed going =>
    have alive : w.service.scope.isCancelled [0] = false ∧ w.service.active.live = true := by
      simpa [IndicatorEnds] using going
    simp [canRun, showState, indicate, record, moveTo, alive, Watched.isNews]

/-- The task waits after its next step at the latest. -/
theorem StatusPoint.IsCaughtUp.rests (h : p.IsCaughtUp w) (hi : Minds w) (hw : Sound w)
    (runs : w.runs statusTask (.status [0] p)) :
    (w.step statusTask).isReady statusTask = false ∧ (w.step statusTask).activeState = w.activeState := by
  cases ready : w.isReady statusTask with
  | false =>
    rw [step_of_unready ready]
    exact ⟨ready, rfl⟩
  | true =>
    obtain ⟨p', aborted, ht, ends | ⟨-, q, goes, shows⟩⟩ := hi.poll_cases hw ready
    · rw [ends]
      exact ⟨isReady_finish w statusTask, rfl⟩
    · obtain ⟨rfl, -⟩ : p = p' ∧ aborted = false := by simpa using runs.symm.trans ht
      rw [shows]
      exact ⟨h.waits runs goes, rfl⟩

/-- Left alone, the task waits after two steps at most. -/
theorem Minds.rests (hi : Minds w) (hw : Sound w) : ∃ n ≤ 2,
    (w.receiveAll (.replicate n .poll)).isReady statusTask = false ∧
      (w.receiveAll (.replicate n .poll)).activeState = w.activeState := by
  cases ready : w.isReady statusTask with
  | false => exact ⟨0, by simp, ready, rfl⟩
  | true =>
    obtain ⟨p, aborted, ht, ends | ⟨rfl, q, goes, shows⟩⟩ := hi.poll_cases hw ready
    · refine ⟨1, by simp, ?_⟩
      have one : w.receiveAll (.replicate 1 .poll) = w.finish statusTask := ends
      rw [one]
      exact ⟨isReady_finish w statusTask, rfl⟩
    · refine ⟨2, by simp, ?_⟩
      have two : w.receiveAll (.replicate 2 .poll) = (w.showState q).step statusTask := by
        rw [← shows]
        rfl
      have hi' : Minds (w.showState q) := shows ▸ hi.receive hw .poll
      have hw' : Sound (w.showState q) := shows ▸ hw.receive .poll
      rw [two]
      exact goes.isCaughtUp.rests hi' hw' (runs_moveTo ht)

theorem watched?_eq {token : Token} {aborted : Bool}
    (ht : w.tasks[statusTask]? = some ⟨.status token p, aborted, false⟩) : w.watched? = p.watches? := by
  simp [watched?, ht]

theorem closedPeriod?_eq_some_iff {token : Token} {aborted : Bool} {s : Nat}
    (ht : w.tasks[statusTask]? = some ⟨.status token p, aborted, false⟩) :
    w.closedPeriod? = some s ↔
      ∃ d x, p.watches? = some (s, d) ∧ w.activation? d = some x ∧ x.live = false := by
  simp [closedPeriod?, watched?_eq ht, Option.filter_eq_some_iff, Option.any_eq_true]

theorem StatusPoint.seen?_of_watches {s : Nat} (h : p.watches? = some (s, d)) : p.seen? = some s := by
  cases p <;> simp_all [StatusPoint.watches?, StatusPoint.seen?]

/-- What the task has yet to show of the store that it watches. -/
def StatusPoint.owes (w : Workspace) : StatusPoint → Nat
  | .watching _ d seenActivation storeOpen =>
    match w.activation? d with
    | some x => x.changes - seenActivation + (storeOpen && !x.live).toNat
    | none => 0
  | _ => 0

/-- How much the task could show when it started and at changes of the active diagram, `base` of which
came before. -/
def StatusPoint.answered (base : Nat) (p : StatusPoint) : Nat :=
  match p.seen? with
  | some seen => seen - base + 1
  | none => 0

theorem StatusPoint.Knows.answered_le (known : p.Knows w) (base : Nat) :
    p.answered base ≤ w.service.active.changes - base + 1 := by
  unfold StatusPoint.answered
  split
  · next seen hp =>
    have le := known.seen_le hp
    omega
  · exact Nat.zero_le _

/-- The books of the status indicator's task: each indication was called for, and so is what it owes. -/
structure Balance (base : Nat) (w : Workspace) (p : StatusPoint) (ended : Bool) (written : Nat)
    (closed : Finset Nat) (polled : Nat) : Prop where
  since : base ≤ w.service.active.changes
  seen : ∀ seen, p.seen? = some seen → base ≤ seen
  shown : w.indications.length + (if ended then 0 else p.owes w) ≤
    p.answered base + written + closed.card
  /-- The period at hand is not on the books before its store is closed. -/
  periods : ended = false → ∀ s ∈ closed,
    ∃ seen, p.seen? = some seen ∧ s ≤ seen ∧ (s = seen → w.closedPeriod? = some seen)
  polled : polled ≤ w.indications.length + ended.toNat

namespace Balance

variable {base written polled : Nat} {ended aborted : Bool} {closed : Finset Nat}

theorem card_lt_of_new {s : Nat} {o : Option Nat} (new : s ∉ closed) (ho : o = some s) :
    closed.card < (closed ∪ o.toFinset).card := by
  apply Finset.card_lt_card
  refine ⟨Finset.subset_union_left, fun sub => new (sub ?_)⟩
  simp [ho]

theorem card_le (closed more : Finset Nat) : closed.card ≤ (closed ∪ more).card :=
  Finset.card_le_card Finset.subset_union_left

/-- News makes a debt only by a write, or as a period begins. -/
theorem owes_news_le {i : Impulse} (h : Balance base w p false written closed polled)
    (ht : w.tasks[statusTask]? = some ⟨.status [0] p, aborted, false⟩) (known : p.Knows w)
    (news : News w (w.receive i)) :
    p.owes (w.receive i) + closed.card ≤ p.owes w + (w.writesWatched i).toNat +
      (closed ∪ (w.receive i).closedPeriod?.toFinset).card := by
  have grown := card_le closed (w.receive i).closedPeriod?.toFinset
  obtain ⟨aborted', ht'⟩ := news.task ht
  cases p with
  | starting => simp only [StatusPoint.owes]; omega
  | hidden seen => simp only [StatusPoint.owes]; omega
  | watching seen d seenActivation storeOpen =>
    obtain ⟨-, -, x, hx, -⟩ := known
    obtain ⟨x', hx', stays, once⟩ := news.store hx
    have writes : (w.writesWatched i).toNat = if x'.value = x.value then 0 else 1 := by
      simp only [writesWatched, watched?_eq ht, StatusPoint.watches?, Option.any_some,
        isActivated_eq hx, isActivated_eq hx']
      split <;> simp_all
    simp only [StatusPoint.owes, hx, hx', writes]
    by_cases closing : x.live = true ∧ x'.live = false
    · -- The store is closed just now, so the period was not on the books.
      have begins : (w.receive i).closedPeriod? = some seen :=
        (closedPeriod?_eq_some_iff ht').mpr ⟨d, x', rfl, hx', closing.2⟩
      have new : seen ∉ closed := fun mem => by
        obtain ⟨_, ⟨⟩, -, still⟩ := h.periods rfl seen mem
        obtain ⟨_, y, ⟨⟩, hy, hl⟩ := (closedPeriod?_eq_some_iff ht).mp (still rfl)
        obtain rfl := Option.some.inj (hx.symm.trans hy)
        simp [closing.1] at hl
      have more := card_lt_of_new new begins
      have one := Bool.toNat_le (storeOpen && !x'.live)
      omega
    · have noLess : (storeOpen && !x'.live).toNat ≤ (storeOpen && !x.live).toNat := by
        cases hl : x.live <;> cases hl' : x'.live <;> simp_all
      omega

theorem news {i : Impulse} (h : Balance base w p ended written closed polled)
    (ht : w.tasks[statusTask]? = some ⟨.status [0] p, aborted, ended⟩) (known : p.Knows w)
    (news : News w (w.receive i)) :
    Balance base (w.receive i) p ended (written + (w.writesWatched i).toNat)
      (closed ∪ (w.receive i).closedPeriod?.toFinset) polled := by
  obtain ⟨aborted', ht'⟩ := news.task ht
  constructor
  case since => exact Nat.le_trans h.since news.active
  case seen => exact h.seen
  case polled => rw [news.silent]; exact h.polled
  case periods =>
    rintro rfl s hs
    -- An old period lasts as long as the store stays closed, and a new one is that of the task now.
    rcases Finset.mem_union.mp hs with old | new
    · obtain ⟨seen, hp, le, still⟩ := h.periods rfl s old
      refine ⟨seen, hp, le, fun eq => ?_⟩
      obtain ⟨d, x, watches, hx, closed⟩ := (closedPeriod?_eq_some_iff ht).mp (still eq)
      obtain ⟨x', hx', stays, -⟩ := news.store hx
      exact (closedPeriod?_eq_some_iff ht').mpr ⟨d, x', watches, hx', by rw [stays closed, closed]⟩
    · have new : (w.receive i).closedPeriod? = some s := by simpa using new
      obtain ⟨d, x, watches, -⟩ := (closedPeriod?_eq_some_iff ht').mp new
      exact ⟨s, StatusPoint.seen?_of_watches watches, Nat.le_refl _, fun _ => new⟩
  case shown =>
    have shown := h.shown
    rw [news.silent]
    cases ended with
    | true =>
      have grown := card_le closed (w.receive i).closedPeriod?.toFinset
      simp only [if_true] at shown ⊢
      omega
    | false =>
      have debt := h.owes_news_le ht known news
      simp only [Bool.false_eq_true, if_false] at shown ⊢
      omega

/-- A task that has seen something new is further than it was. -/
theorem answered_lt (h : Balance base w p ended written closed polled) (known : p.Knows w)
    (news : p.seen? ≠ some w.service.active.changes) :
    p.answered base < w.service.active.changes - base + 1 := by
  unfold StatusPoint.answered
  split
  · next seen hp =>
    have ne : seen ≠ w.service.active.changes := fun eq => news (hp.trans (congrArg some eq))
    have le := known.seen_le hp
    have since := h.seen seen hp
    omega
  · exact Nat.succ_pos _

/-- The periods on the books, as the task sees them that has seen no change of the active diagram since. -/
theorem period_le {s : Nat} (h : Balance base w p false written closed polled) (known : p.Knows w)
    (hs : s ∈ closed) : s ≤ w.service.active.changes ∧ (s = w.service.active.changes →
      p.seen? = some w.service.active.changes ∧ w.closedPeriod? = some w.service.active.changes) := by
  obtain ⟨seen, hp, le, still⟩ := h.periods rfl s hs
  have le' := known.seen_le hp
  refine ⟨Nat.le_trans le le', fun eq => ?_⟩
  obtain rfl : s = seen := by omega
  exact ⟨eq ▸ hp, eq ▸ still rfl⟩

/-- An indication settles a debt, unless the active diagram changed or a period begins. -/
theorem owes_le (h : Balance base w p false written closed polled)
    (ht : w.runs statusTask (.status [0] p)) (known : p.Knows w) (goes : Showing w p q) :
    1 + q.owes w + p.answered base + closed.card ≤
      p.owes w + q.answered base + (closed ∪ (w.showState q).closedPeriod?.toFinset).card := by
  have grown := card_le closed (w.showState q).closedPeriod?.toFinset
  cases goes with
  | hides news inactive =>
    have further := h.answered_lt known news
    simp only [StatusPoint.owes, StatusPoint.answered, StatusPoint.seen?] at further ⊢
    omega
  | @looks _ d x news active hx =>
    have further := h.answered_lt known news
    have runs : (w.showState (.watching w.service.active.changes d x.changes true)).runs statusTask _ :=
      runs_moveTo ht
    simp only [StatusPoint.owes, hx, StatusPoint.answered, StatusPoint.seen?, Nat.sub_self] at further ⊢
    cases live : x.live with
    | true =>
      simp only [Bool.not_true, Bool.and_false, Bool.toNat_false]
      omega
    | false =>
      -- The store was closed before its diagram became active.
      have begins := (closedPeriod?_eq_some_iff runs).mpr ⟨d, x, rfl, hx, live⟩
      have new : w.service.active.changes ∉ closed := fun mem => news ((h.period_le known mem).2 rfl).1
      have more := card_lt_of_new new begins
      simp only [Bool.not_false, Bool.and_true, Bool.toNat_true]
      omega
  | again hx news =>
    obtain ⟨-, -, y, hy, le, -⟩ := known
    obtain rfl := Option.some.inj (hx.symm.trans hy)
    simp only [StatusPoint.owes, hx, StatusPoint.answered, StatusPoint.seen?, Nat.sub_self]
    omega
  | leaves hx store going =>
    simp only [StatusPoint.owes, hx, StatusPoint.answered, StatusPoint.seen?, Nat.sub_self, store,
      Bool.not_false, Bool.and_true, Bool.toNat_true, Bool.toNat_false]
    omega

theorem shows (h : Balance base w p false written closed polled)
    (ht : w.runs statusTask (.status [0] p)) (known : p.Knows w) (goes : Showing w p q) :
    Balance base (w.showState q) q false (written + (w.writesWatched .poll).toNat)
      (closed ∪ (w.showState q).closedPeriod?.toFinset) (polled + 1) := by
  have runs : (w.showState q).runs statusTask (.status [0] q) := runs_moveTo ht
  have length : (w.showState q).indications.length = w.indications.length + 1 := by
    rw [showState_indications, List.length_append, List.length_singleton]
  have hq : q.seen? = some w.service.active.changes := goes.isCaughtUp.1
  constructor
  case since => exact h.since
  case seen => exact fun seen hs => Option.some.inj (hq.symm.trans hs) ▸ h.since
  case polled =>
    rw [length]
    exact Nat.succ_le_succ h.polled
  case periods =>
    rintro - s hs
    refine ⟨_, hq, ?_⟩
    -- A period that was on the books goes on unless the task looks at the active diagram anew.
    rcases Finset.mem_union.mp hs with old | new
    · obtain ⟨le, same⟩ := h.period_le known old
      refine ⟨le, fun eq => ?_⟩
      obtain ⟨hp, still⟩ := same eq
      obtain ⟨d, x, watches, hx, closed⟩ := (closedPeriod?_eq_some_iff ht).mp still
      refine (closedPeriod?_eq_some_iff runs).mpr ⟨d, x, ?_, hx, closed⟩
      cases goes with
      | hides news inactive => exact absurd hp news
      | looks news active hx => exact absurd hp news
      | again hx news => exact watches
      | leaves hx closed going => exact watches
    · have new : (w.showState q).closedPeriod? = some s := by simpa using new
      obtain ⟨d, x, watches, -⟩ := (closedPeriod?_eq_some_iff runs).mp new
      have eq := Option.some.inj (hq.symm.trans (StatusPoint.seen?_of_watches watches))
      exact ⟨Nat.le_of_eq eq.symm, fun _ => eq ▸ new⟩
  case shown =>
    have settles := h.owes_le ht known goes
    have same : q.owes (w.showState q) = q.owes w := by cases q <;> rfl
    have shown := h.shown
    simp only [Bool.false_eq_true, if_false, length, same] at shown ⊢
    omega

theorem ends (h : Balance base w p false written closed polled) (more : Nat) (also : Finset Nat) :
    Balance base (w.finish statusTask) p true (written + more) (closed ∪ also) (polled + 1) where
  since := h.since
  seen := h.seen
  shown := by
    have shown := h.shown
    have grown := card_le closed also
    have same : (w.finish statusTask).indications = w.indications := rfl
    simp only [Bool.false_eq_true, if_false] at shown
    simp only [same, if_true]
    omega
  periods := fun h => nomatch h
  polled := Nat.succ_le_succ h.polled

end Balance

/-- The books balance from the start of the task on. -/
theorem Minds.balance (hi : Minds w) (hw : Sound w) (start : w.IndicatorStarts) (more : List Impulse) :
    ∃ p aborted ended,
      (w.receiveAll more).tasks[statusTask]? = some ⟨.status [0] p, aborted, ended⟩ ∧
        Balance w.service.active.changes (w.receiveAll more) p ended (w.countAlong writesWatched more)
          (w.closedPeriods more) (w.countAlong polls more) := by
  -- Impulse by impulse, with the books open at both ends of the run so far.
  induction more using List.reverseRecOn with
  | nil =>
    obtain ⟨-, known, -⟩ := hi.of_task start
    have silent : w.indications = [] := by
      rw [← List.getLast?_eq_none_iff, getLast?_indications]
      exact known
    have none : w.closedPeriods [] = ∅ := by
      have unwatched : (w.receiveAll []).watched? = none := watched?_eq start
      simp [closedPeriods, closedPeriod?, unwatched]
    refine ⟨.starting, false, false, start, Nat.le_refl _, (fun _ h => nomatch h), ?_, ?_, Nat.zero_le _⟩
    · show w.indications.length + 0 ≤ _
      rw [silent]
      exact Nat.zero_le _
    · rw [none]
      simp
  | append_singleton more i ih =>
    obtain ⟨p, aborted, ended, ht, balance⟩ := ih
    have hi := hi.receiveAll hw more
    have hw := hw.receiveAll more
    obtain ⟨-, known, -⟩ := hi.of_task ht
    rw [receiveAll_concat, countAlong_concat, countAlong_concat, closedPeriods_concat]
    generalize w.receiveAll more = u at *
    -- A step of the task pays a debt; anything else is news, which may make one.
    rcases hw.receive_cases i with ⟨rfl, ready⟩ | ⟨idle, news⟩
    · have busy : u.polls .poll = true := by simp [polls, ready]
      rw [busy]
      obtain ⟨p', aborted', ht', ends | ⟨rfl, q, goes, shows⟩⟩ := hi.poll_cases hw ready
      · obtain ⟨rfl, rfl, rfl⟩ : p = p' ∧ aborted = aborted' ∧ ended = false := by
          simpa using ht.symm.trans ht'
        have finished : u.receive .poll = u.finish statusTask := ends
        rw [finished]
        exact ⟨p, aborted, true, by simp [finish, ht], balance.ends _ _⟩
      · obtain ⟨rfl, rfl, rfl⟩ : p = p' ∧ aborted = false ∧ ended = false := by
          simpa using ht.symm.trans ht'
        have shown : u.receive .poll = u.showState q := shows
        rw [shown]
        exact ⟨q, false, false, runs_moveTo ht, balance.shows ht known goes⟩
    · obtain ⟨aborted', ht'⟩ := news.task ht
      rw [idle]
      exact ⟨p, aborted', ended, ht', balance.news ht known news⟩

/-- In every run, whatever happens to the active diagram and to stores, the status indicator comes to
rest. -/
theorem receiveAll_comesToRest (settings : Settings) (visible : List Url) (symbols : List Symbol)
    (conduct : Conduct) (past more : List Impulse) :
    ComesToRest ((Workspace.new settings visible symbols conduct).receiveAll past) more := by
  have hw := (Sound.new settings visible symbols conduct).receiveAll past
  have hi := (Minds.new settings visible symbols conduct).receiveAll
    (Sound.new settings visible symbols conduct) past
  generalize (Workspace.new settings visible symbols conduct).receiveAll past = w at *
  have hw' := hw.receiveAll more
  have hi' := hi.receiveAll hw more
  constructor
  -- Both bounds are read off the books, which balance from the start on.
  case bounded =>
    intro start
    obtain ⟨p, aborted, ended, ht, balance⟩ := hi.balance hw start more
    obtain ⟨-, known, -⟩ := hi'.of_task ht
    have answered := known.answered_le w.service.active.changes
    have shown := balance.shown
    omega
  case busy =>
    intro start
    obtain ⟨p, aborted, ended, ht, balance⟩ := hi.balance hw start more
    exact Nat.le_trans balance.polled (Nat.add_le_add_left (Bool.toNat_le ended) _)
  case rests =>
    obtain ⟨n, le, waits, same⟩ := hi'.rests hw'
    refine ⟨n, le, _, rfl, waits, Classical.or_iff_not_imp_left.mpr fun going => ?_⟩
    obtain ⟨going, live⟩ := not_or.mp going
    have hu := hw'.receiveAll (.replicate n .poll)
    have alive := Bool.eq_false_iff.mpr fun h => going (hu.isCancelled_status.trans h)
    have indicates : Indicates ((w.receiveAll more).receiveAll (.replicate n .poll)) :=
      ⟨hi'.receiveAll hw' _, by rw [alive]; exact Bool.of_not_eq_false live⟩
    rw [← same]
    exact indicates.settled hu alive waits
  case pending =>
    rintro seen d seenActivation storeOpen x ht rfl going hx closed unseen
    obtain ⟨goes, live⟩ := not_or.mp going
    obtain ⟨-, ⟨-, active, y, hy, -, -, left⟩, -⟩ := hi'.of_task ht
    obtain rfl := Option.some.inj (hx.symm.trans hy)
    -- After a closed store was seen, the task has nothing left to show of it.
    obtain rfl : storeOpen = true := by
      cases storeOpen with
      | true => rfl
      | false => exact absurd (left rfl).2 unseen
    have ready : (w.receiveAll more).isReady statusTask = true := by
      simp [isReady_of_runs ht, canRun, hx, closed]
    refine ⟨ready, ?_⟩
    have shows := hi'.step_shows hw' ht ready (Bool.eq_false_iff.mpr goes) (.inl (Bool.of_not_eq_false live))
    rw [activeState_of_watched (active rfl) hx] at shows
    rw [receiveAll_concat]
    exact shows
  case follows =>
    intro p seen ht hp news going
    have ready : (w.receiveAll more).isReady statusTask = true := by
      have isNews : (w.receiveAll more).service.active.isNews seen = true :=
        Bool.of_not_eq_false fun h => news (isNews_eq_false.mp h)
      cases p with
      | starting => cases hp
      | hidden n =>
        obtain rfl := Option.some.inj hp
        simp [isReady_of_runs ht, canRun, isNews]
      | watching n d x o =>
        obtain rfl := Option.some.inj hp
        simp [isReady_of_runs ht, canRun, isNews]
    refine ⟨ready, ?_⟩
    rw [receiveAll_concat]
    refine hi'.step_shows hw' ht ready going (.inr fun eq => news ?_)
    exact Option.some.inj (hp.symm.trans eq)
  case ends =>
    intro task ht stopped
    obtain ⟨p, aborted, ended, ht', -, ending⟩ := hi'.task
    obtain rfl := Option.some.inj (ht.symm.trans ht')
    exact (ending stopped).imp_left hw'.isCancelled_status.trans

/-- A store that is closed while its diagram is active shows once more, and then the task waits for the
next active diagram. -/
example :
    let id : Url := ⟨"file:///closing.rs", by decide +kernel⟩
    ((Workspace.new .default [] [] (.prompt false false)).receiveAll
      [.poll, .move (.openDiagram id (.fresh true) false true), .setActive (some 0), .poll,
        .move (.closeStore 0), .poll, .poll, .poll, .setActive none, .poll]).indications.map
          Indicator.visible = [false, true, true, false] := by
  decide +kernel

end DiagramLinks
