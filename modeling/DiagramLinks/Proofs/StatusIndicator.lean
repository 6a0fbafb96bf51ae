import Mathlib.Data.List.Induction
import DiagramLinks.Proofs.Sound

namespace DiagramLinks

open Workspace

variable {a : Author} {authors : List Author} {w w' : Workspace} {t : TaskNo} {d : DiagramNo}

/-- The task of the status indicator. -/
abbrev statusTask : TaskNo := 0

/-- How many changes of the active diagram were seen at a point. -/
def StatusPoint.seen? : StatusPoint → Option Nat
  | starting => none
  | hidden seen => some seen
  | watching seen _ _ _ => some seen

namespace Workspace

/-- Whether the active diagram is activated, if there is one. -/
def activeState (w : Workspace) : Option Bool :=
  w.service.active.value.map w.isActivated

/-- The status indicator's task has seen which diagram is active. -/
def HasSeenActive (w : Workspace) : Prop :=
  ∃ token p aborted ended, w.tasks[statusTask]? = some ⟨.status token p, aborted, ended⟩ ∧
    p.seen? = some w.service.active.changes

/-- The active diagram and its activation are the same. -/
def SameActive (w w' : Workspace) : Prop :=
  w'.service.active = w.service.active ∧
    ∀ d, w.service.active.value = some d → w'.activation? d = w.activation? d

end Workspace

/-- How the status indicator follows the active diagram. -/
structure IndicatorFollows (w : Workspace) : Prop where
  /-- What a move indicates is how things stand, before the move as well as after it. -/
  truthful : ∀ m, ∃ new, (w.move m).indications = w.indications ++ new ∧
    ∀ i ∈ new, i = .ofState w.activeState ∧ i = .ofState (w.move m).activeState
  /-- Unless it was cancelled, a task that waits has indicated how things stand. -/
  settled : w.service.scope.isReleased = false → w.isReady statusTask = false →
    w.indications.getLast? = some (.ofState w.activeState)
  /-- A task that waits indicates nothing as long as the active diagram and its activation stay the
  same, whatever is written to other stores. -/
  quiet : w.isReady statusTask = false → ∀ more,
    (∀ past, past <+: more → SameActive w (w.run past)) → (w.run more).indications = w.indications
  /-- Once the task has seen which diagram is active, changes of a store that is not that diagram's
  neither wake it nor change what it indicates next. -/
  elsewhere : w.HasSeenActive → ∀ e f,
    (∀ d, w.service.active.value = some d →
      w.diagrams[d]?.map Diagram.store ≠ w.diagrams[e]?.map Diagram.store) →
    (w.modifyActivation e f).isReady statusTask = w.isReady statusTask ∧
      ((w.modifyActivation e f).step statusTask).indications = (w.step statusTask).indications

/-- The last indication. -/
def lastIndication? (history : List Entry) : Option Indicator :=
  history.findSome? fun entry =>
    match entry.event with
    | .indicated i => some i
    | _ => none

/-- What is known at a point of the status indicator's task: what it has seen last, unless there is
news. -/
def StatusPoint.Knows (w : Workspace) : StatusPoint → Prop
  | .starting => lastIndication? w.history = none
  | .hidden seen => seen ≤ w.service.active.changes ∧
    (seen = w.service.active.changes →
      w.service.active.value = none ∧ lastIndication? w.history = some .hidden)
  | .watching seen d seenActivation storeOpen => seen ≤ w.service.active.changes ∧
    (seen = w.service.active.changes → w.service.active.value = some d) ∧
    ∃ x, w.activation? d = some x ∧ seenActivation ≤ x.changes ∧
      (seenActivation = x.changes → lastIndication? w.history = some (.ofActivation x.value)) ∧
      (storeOpen = false → x.live = false ∧ seenActivation = x.changes)

/-- Where the status indicator's task stands. It ends only when it is cancelled, or when no diagram can
become active any more. -/
structure Minds (w : Workspace) : Prop where
  task : ∃ p aborted ended, w.tasks[statusTask]? = some ⟨.status [0] p, aborted, ended⟩ ∧ p.Knows w ∧
    (aborted = true ∨ ended = true →
      w.service.scope.isReleased = true ∨ w.service.active.live = false)

/-- Where the task stands while a service owns it, which cancels it and makes an end of active diagrams
at once. -/
structure Indicates (w : Workspace) : Prop extends Minds w where
  live : w.service.active.live = !w.service.scope.isReleased

theorem StatusPoint.Knows.later {p : StatusPoint} (h : p.Knows w)
    (changes : w.service.active.changes < w'.service.active.changes ∨
      w'.service.active.changes = w.service.active.changes ∧
        w'.service.active.value = w.service.active.value)
    (last : lastIndication? w'.history = lastIndication? w.history)
    (stores : ∀ d x, w.activation? d = some x → ∃ x', w'.activation? d = some x' ∧ x.Later x') :
    p.Knows w' := by
  cases p with
  | starting => exact last.trans h
  | hidden seen =>
    obtain ⟨le, known⟩ := h
    refine ⟨by omega, fun eq => ?_⟩
    rcases changes with news | ⟨same, value⟩
    · omega
    · rw [value, last]
      exact known (eq.trans same)
  | watching seen d seenActivation storeOpen =>
    obtain ⟨le, known, x, hx, leActivation, shown, closed⟩ := h
    obtain ⟨x', hx', later⟩ := stores d x hx
    refine ⟨by omega, fun eq => ?_, x', hx', Nat.le_trans leActivation later.changes, fun eq => ?_,
      fun hs => ?_⟩
    · rcases changes with news | ⟨same, value⟩
      · omega
      · rw [value]
        exact known (eq.trans same)
    · have le' := later.changes
      have same : x'.changes = x.changes := by omega
      rw [last, later.value same]
      exact shown (eq.trans same)
    · obtain ⟨hl, he⟩ := closed hs
      rw [later.closed hl]
      exact ⟨hl, he⟩

theorem lastIndication?_append {new past : List Entry}
    (quiet : ∀ e ∈ new, e.event.kind ≠ .indicator) :
    lastIndication? (new ++ past) = lastIndication? past := by
  have none : new.findSome? (fun entry =>
      match entry.event with
      | .indicated i => some i
      | _ => none) = none := by
    apply List.findSome?_eq_none_iff.mpr
    intro e he
    have kind := quiet e he
    revert kind
    cases e.event <;> simp [Event.kind]
  rw [lastIndication?, List.findSome?_append, none]
  rfl

/-- Only the status indicator's task indicates. -/
theorem Change.lastIndication?_eq (h : Change a w w') (ha : a ≠ .status) :
    lastIndication? w'.history = lastIndication? w.history := by
  obtain ⟨new, hn, hr⟩ := h.history_eq
  rw [hn]
  apply lastIndication?_append
  intro e he hk
  have records := hr e he
  rw [hk] at records
  cases a <;> simp_all [Author.records]

/-- The token of the status indicator's task is cancelled just with its scope. -/
theorem Sound.isCancelled_status (hw : Sound w) :
    w.service.scope.isCancelled [0] = w.service.scope.isReleased := by
  rw [Bool.eq_iff_iff]
  simp only [Scope.isReleased, Scope.isCancelled, List.any_eq_true]
  constructor
  · rintro ⟨token, ht, -⟩
    exact ⟨token, ht, by rw [hw.ended token ht]; rfl⟩
  · rintro ⟨token, ht, -⟩
    exact ⟨token, ht, by rw [hw.ended token ht]; rfl⟩

theorem Sound.status_task (hw : Sound w) {token : Token} {p : StatusPoint} {aborted ended : Bool}
    (h : w.tasks[t]? = some ⟨.status token p, aborted, ended⟩) : t = statusTask ∧ token = [0] :=
  (hw.roster.status t token).mp (spawned_of_task h)

/-- Every diagram has a store, so an active one can be shown. -/
theorem Sound.active_eq_none (hw : Sound w)
    (inactive : ∀ d, w.service.active.value = some d → w.activation? d = none) :
    w.service.active.value = none := by
  apply Option.eq_none_iff_forall_ne_some.mpr
  intro d hd
  obtain ⟨x, hx⟩ := hw.activation (hw.active d hd)
  rw [inactive d hd] at hx
  cases hx

namespace Minds

theorem of_task (hi : Minds w) {token : Token} {p : StatusPoint} {aborted ended : Bool}
    (ht : w.tasks[statusTask]? = some ⟨.status token p, aborted, ended⟩) :
    token = [0] ∧ p.Knows w ∧ (aborted = true ∨ ended = true →
      w.service.scope.isReleased = true ∨ w.service.active.live = false) := by
  obtain ⟨q, aborted', ended', htask, known, ending⟩ := hi.task
  have eq := htask.symm.trans ht
  simp only [Option.some.injEq, Task.mk.injEq, Activity.status.injEq] at eq
  obtain ⟨⟨rfl, rfl⟩, rfl, rfl⟩ := eq
  exact ⟨rfl, known, ending⟩

theorem other (hi : Minds w) (hw : Sound w) (hc : Change a w w') (ha : a ≠ .status)
    (ha' : a ≠ .service) : Minds w' := by
  obtain ⟨settings, editor, he⟩ := hc.service_eq ha'
  obtain ⟨p, aborted, ended, ht, known, ending⟩ := hi.task
  -- The task does not move, and its watched values only get news.
  have no : a.owns (.status [0] p) = false := by
    cases a <;> simp_all [Author.owns, Activity.isWork]
  have active : w'.service.active = w.service.active := by rw [he]
  have scope : w'.service.scope = w.service.scope := by rw [he]
  refine ⟨p, aborted, ended, hw.task_eq hc ht no, ?_, by rw [scope, active]; exact ending⟩
  refine known.later (.inr (by rw [active]; exact ⟨rfl, rfl⟩)) (hc.lastIndication?_eq ha) ?_
  exact fun d x hx => hc.later hx

theorem service (hi : Minds w) (hw : Sound w) (hc : Change .service w w') : Minds w' := by
  have hc' := hc
  obtain ⟨p, aborted, ended, ht, known, ending⟩ := hi.task
  have kept (tasks : w'.tasks = w.tasks) (scope : w'.service.scope = w.service.scope)
      (live : w'.service.active.live = w.service.active.live)
      (changes : w.service.active.changes < w'.service.active.changes ∨
        w'.service.active.changes = w.service.active.changes ∧
          w'.service.active.value = w.service.active.value) : Minds w' := by
    refine ⟨p, aborted, ended, tasks ▸ ht, ?_, by rw [scope, live]; exact ending⟩
    exact known.later changes (hc'.lastIndication?_eq (by simp)) fun d x hx => hc'.later hx
  cases hc with
  | register id valid => exact kept rfl rfl rfl (.inr ⟨rfl, rfl⟩)
  | unregister id => exact kept rfl rfl rfl (.inr ⟨rfl, rfl⟩)
  | focus focus => exact kept rfl rfl rfl (.inr ⟨rfl, rfl⟩)
  | activate valid => exact kept rfl rfl rfl (.inl (Nat.lt_succ_self _))
  | letGo => exact kept rfl rfl rfl (.inr ⟨rfl, rfl⟩)
  | release d =>
    obtain ⟨tasks, he, hm⟩ := releaseSession_eq w d
    -- A diagram's scope tracks its session, never this task.
    have untracked : (w.tracked d).contains statusTask = false := by
      apply Bool.eq_false_iff.mpr
      intro hin
      simp only [Workspace.tracked] at hin
      cases hd : w.diagrams[d]? with
      | none => simp [hd] at hin
      | some diagram =>
        have hs := hw.tracked d diagram hd statusTask (by simpa [hd] using hin)
        rw [spawned_of_task ht] at hs
        cases hs
    refine ⟨p, aborted, ended, ?_, ?_, ?_⟩
    · rw [he]
      apply (hm statusTask).trans
      rw [ht, untracked]
      simp
    · exact known.later (.inr (by rw [he]; exact ⟨rfl, rfl⟩)) (hc'.lastIndication?_eq (by simp))
        fun d x hx => hc'.later hx
    · rw [he]
      exact ending
  | endService =>
    obtain ⟨tasks, he, hm⟩ := endService_eq w
    refine ⟨p, aborted || w.service.scope.tracked.contains statusTask, ended, ?_, ?_, fun _ => ?_⟩
    · rw [he]
      apply (hm statusTask).trans
      rw [ht]
      rfl
    · exact known.later (.inr (by rw [he]; exact ⟨rfl, rfl⟩)) (hc'.lastIndication?_eq (by simp))
        fun d x hx => hc'.later hx
    · rw [he]
      exact .inl rfl

theorem moved {p q : StatusPoint} {i : Indicator} (ht : w.runs statusTask (.status [0] p))
    (known : q.Knows ((w.indicate i).moveTo statusTask (.status [0] q))) :
    Minds ((w.indicate i).moveTo statusTask (.status [0] q)) where
  task := ⟨q, false, false, runs_moveTo ht, known, by simp⟩

theorem status (hi : Minds w) (hw : Sound w) (hc : Change .status w w') : Minds w' := by
  cases hc with
  | hide h inactive =>
    obtain ⟨rfl, rfl⟩ := hw.status_task h
    exact moved h ⟨Nat.le_refl _, fun _ => ⟨hw.active_eq_none inactive, rfl⟩⟩
  | watch h active ha =>
    obtain ⟨rfl, rfl⟩ := hw.status_task h
    exact moved h ⟨Nat.le_refl _, fun _ => active, _, ha, Nat.le_refl _, fun _ => rfl,
      fun h => nomatch h⟩
  | @showWatched _ t token seen d seenActivation x storeOpen h settled ha closing =>
    obtain ⟨rfl, rfl⟩ := hw.status_task h
    obtain ⟨-, ⟨le, active, -⟩, -⟩ := hi.of_task h
    refine moved h ⟨le, active, x, ha, Nat.le_refl _, fun _ => rfl, fun hs => ⟨?_, rfl⟩⟩
    rcases closing with still | ⟨-, closed⟩
    · rw [hs] at still
      cases still
    · exact closed
  | @endStatus _ t token q flag h ending' =>
    obtain ⟨rfl, rfl⟩ := hw.status_task h
    obtain ⟨-, known, ending⟩ := hi.of_task h
    have why : w.service.scope.isReleased = true ∨ w.service.active.live = false := by
      rcases ending' with ha | hcancelled | hl
      · exact ending (.inl ha)
      · exact .inl (by rw [← hw.isCancelled_status, hcancelled])
      · exact .inr hl
    exact ⟨q, flag, true, by simp [finish, h], known, fun _ => why⟩

theorem change (hi : Minds w) (hw : Sound w) (hc : Change a w w') : Minds w' := by
  by_cases ha : a = .status
  · subst ha
    exact hi.status hw hc
  · by_cases ha' : a = .service
    · subst ha'
      exact hi.service hw hc
    · exact hi.other hw hc ha ha'

theorem new (settings : Settings) (visible : List Url) (symbols : List Symbol) (conduct : Conduct) :
    Minds (.new settings visible symbols conduct) :=
  ⟨.starting, false, false, rfl, rfl, by simp⟩

end Minds

/-- Active diagrams come to an end with the scope of the service. -/
theorem Change.live_eq (h : Change a w w') (live : w.service.active.live = !w.service.scope.isReleased) :
    w'.service.active.live = !w'.service.scope.isReleased := by
  by_cases ha : a = .service
  · subst ha
    cases h with
    | release d =>
      obtain ⟨tasks, he, -⟩ := releaseSession_eq w d
      rw [he]
      exact live
    | endService =>
      obtain ⟨tasks, he, -⟩ := endService_eq w
      rw [he]
      rfl
    | _ => exact live
  · obtain ⟨settings, editor, he⟩ := h.service_eq ha
    rw [he]
    exact live

namespace Indicates

theorem of_task (hi : Indicates w) {token : Token} {p : StatusPoint} {aborted ended : Bool}
    (ht : w.tasks[statusTask]? = some ⟨.status token p, aborted, ended⟩) :
    token = [0] ∧ p.Knows w ∧ (aborted = true ∨ ended = true → w.service.scope.isReleased = true) := by
  obtain ⟨eq, known, ending⟩ := hi.toMinds.of_task ht
  refine ⟨eq, known, fun h => (ending h).elim id fun live => ?_⟩
  simpa [live] using hi.live

theorem change (hi : Indicates w) (hw : Sound w) (hc : Change a w w') : Indicates w' :=
  ⟨hi.toMinds.change hw hc, hc.live_eq hi.live⟩

theorem chain (hi : Indicates w) (hw : Sound w) (hc : Chain authors w w') : Indicates w' :=
  hw.keeps_chain hi (fun hu hi h => hi.change hu h) hc

theorem run (hi : Indicates w) (hw : Sound w) (moves : List Move) : Indicates (w.run moves) :=
  hw.keeps_run hi (fun hu hi h => hi.change hu h) moves

theorem new (settings : Settings) (visible : List Url) (symbols : List Symbol) (conduct : Conduct) :
    Indicates (.new settings visible symbols conduct) :=
  ⟨.new settings visible symbols conduct, rfl⟩

end Indicates

theorem getLast?_indications (w : Workspace) :
    w.indications.getLast? = lastIndication? w.history := by
  rw [indications, timeline, List.getLast?_reverse, List.head?_filterMap]
  rfl

theorem activeState_of_watched {x : Watched Bool} (ha : w.service.active.value = some d)
    (hx : w.activation? d = some x) : w.activeState = some x.value := by
  simp [activeState, ha, isActivated, hx]

theorem Change.activeState_eq (h : Change .status w w') : w'.activeState = w.activeState := by
  cases h <;> rfl

theorem Indicates.change_indications (hi : Indicates w) (hw : Sound w) (hc : Change .status w w') :
    ∃ new, w'.indications = w.indications ++ new ∧ ∀ i ∈ new, i = .ofState w.activeState := by
  have shown {i : Indicator} {u : Workspace} (hu : u.history = ⟨w.now, .indicated i⟩ :: w.history)
      (true : i = .ofState w.activeState) :
      ∃ new, u.indications = w.indications ++ new ∧ ∀ i ∈ new, i = .ofState w.activeState := by
    refine ⟨[i], ?_, by simpa using true⟩
    rw [indications, timeline, hu]
    simp [indications, timeline]
  cases hc with
  | hide h inactive =>
    apply shown rfl
    rw [activeState, hw.active_eq_none inactive]
    rfl
  | watch h active ha =>
    apply shown rfl
    rw [activeState_of_watched active ha]
    rfl
  | showWatched storeOpen h settled ha closing =>
    apply shown rfl
    obtain ⟨rfl, rfl⟩ := hw.status_task h
    obtain ⟨-, known, -⟩ := hi.of_task h
    -- The task reads the store only when the active diagram is still the one it watches.
    have seen := isNews_eq_false.mp settled
    rw [activeState_of_watched (known.2.1 seen) ha]
    rfl
  | endStatus h ending => exact ⟨[], (List.append_nil _).symm, by simp⟩

theorem Indicates.chain_indications (hi : Indicates w) (hw : Sound w) (hc : Chain [.status] w w') :
    w'.activeState = w.activeState ∧
      ∃ new, w'.indications = w.indications ++ new ∧ ∀ i ∈ new, i = .ofState w.activeState := by
  have kept := hc.keeps
    (P := fun u => (Indicates u ∧ Sound u) ∧ u.activeState = w.activeState ∧
      ∃ new, u.indications = w.indications ++ new ∧ ∀ i ∈ new, i = .ofState w.activeState)
    ⟨⟨hi, hw⟩, rfl, [], by simp, by simp⟩ ?_
  · exact kept.2
  · rintro a ha u u' ⟨⟨hi, hw⟩, same, new, hn, true⟩ hc
    obtain rfl := List.mem_singleton.mp ha
    obtain ⟨more, hm, true'⟩ := hi.change_indications hw hc
    refine ⟨⟨hi.change hw hc, hw.change hc⟩, hc.activeState_eq.trans same, new ++ more, ?_, ?_⟩
    · rw [hm, hn, List.append_assoc]
    · intro i hi
      rcases List.mem_append.mp hi with hi | hi
      · exact true i hi
      · rw [← same]
        exact true' i hi

theorem Chain.indications_eq (h : Chain authors w w') (no : Author.status ∉ authors) :
    w'.indications = w.indications := by
  apply h.timeline_eq
  intro e a ha hr
  have ne : a ≠ .status := fun eq => no (eq ▸ ha)
  revert hr
  cases e <;> cases a <;> simp_all [Author.records, Event.kind]

/-- Only a step of its task indicates. -/
theorem Sound.status_authors (hw : Sound w) (m : Move) :
    m = .step statusTask ∧ w.authors m = [.status] ∨ Author.status ∉ w.authors m := by
  by_cases h : Author.status ∈ w.authors m
  · obtain ⟨t, ⟨b, aborted, ended⟩, hm, ht, moves, authors⟩ := exists_step (.inl rfl) h
    cases b with
    | status token p =>
      obtain ⟨rfl, -⟩ := hw.status_task ht
      exact .inl ⟨hm, authors⟩
    | _ => cases moves
  · exact .inr h

/-- There is nothing to see for the task at a point. -/
def StatusPoint.Rests (w : Workspace) : StatusPoint → Prop
  | .starting => False
  | .hidden seen => seen = w.service.active.changes
  | .watching seen d seenActivation storeOpen => seen = w.service.active.changes ∧
    ∀ x, w.activation? d = some x → storeOpen = true → seenActivation = x.changes ∧ x.live = true

theorem canRun_iff (hw : Sound w) (hi : Indicates w) (p : StatusPoint)
    (alive : w.service.scope.isReleased = false) :
    w.canRun (.status [0] p) = false ↔ p.Rests w := by
  have live : w.service.active.live = true := by rw [hi.live, alive]; rfl
  cases p with
  | starting => simp [canRun, StatusPoint.Rests]
  | hidden seen =>
    simp only [canRun, hw.isCancelled_status, alive, live, StatusPoint.Rests, Bool.false_or,
      Bool.not_true, Bool.or_false, isNews_eq_false]
  | watching seen d seenActivation storeOpen =>
    simp only [canRun, hw.isCancelled_status, alive, live, StatusPoint.Rests, Bool.false_or,
      Bool.not_true, Bool.or_false, Bool.or_eq_false_iff, isNews_eq_false, Bool.and_eq_false_iff]
    refine and_congr_right fun _ => ?_
    cases w.activation? d with
    | none => simp
    | some x => cases storeOpen <;> simp [isNews_eq_false]

theorem Indicates.rests (hi : Indicates w) (hw : Sound w) (alive : w.service.scope.isReleased = false)
    (waits : w.isReady statusTask = false) :
    ∃ p, w.runs statusTask (.status [0] p) ∧ p.Knows w ∧ p.Rests w := by
  obtain ⟨p, aborted, ended, ht, known, -⟩ := hi.task
  obtain ⟨rfl, rfl⟩ : aborted = false ∧ ended = false := by
    obtain ⟨-, -, ending⟩ := hi.of_task ht
    rw [alive] at ending
    cases aborted <;> cases ended <;> simp_all
  simp only [isReady, ht, Bool.not_false, Bool.true_and, Bool.false_or] at waits
  exact ⟨p, ht, known, (canRun_iff hw hi p alive).mp waits⟩

theorem Indicates.settled (hi : Indicates w) (hw : Sound w)
    (alive : w.service.scope.isReleased = false) (waits : w.isReady statusTask = false) :
    w.indications.getLast? = some (.ofState w.activeState) := by
  obtain ⟨p, -, known, rests⟩ := hi.rests hw alive waits
  rw [getLast?_indications]
  cases p with
  | starting => cases rests
  | hidden seen =>
    obtain ⟨none, last⟩ := known.2 rests
    rw [activeState, none, last]
    rfl
  | watching seen d seenActivation storeOpen =>
    obtain ⟨-, active, x, hx, -, shown, closed⟩ := known
    -- An open store has no news as the task rests, a closed one had none when it was last seen.
    have seenIt : seenActivation = x.changes := by
      cases storeOpen with
      | true => exact (rests.2 x hx rfl).1
      | false => exact (closed rfl).2
    rw [shown seenIt, activeState_of_watched (active rests.1) hx]
    rfl

namespace Workspace

/-- A task that is cancelled is never at rest. -/
theorem canRun_of_released {p : StatusPoint} {token : Token}
    (h : w.service.scope.isCancelled token = true) : w.canRun (.status token p) = true := by
  cases p <;> simp [canRun, h]

end Workspace

theorem Chain.status_task {p : StatusPoint} {token : Token} {aborted ended : Bool}
    (h : Chain authors w w') (no : Author.status ∉ authors)
    (ht : w.tasks[t]? = some ⟨.status token p, aborted, ended⟩) :
    ∃ aborted', w'.tasks[t]? = some ⟨.status token p, aborted', ended⟩ := by
  refine h.keeps (P := fun u => ∃ aborted', u.tasks[t]? = some ⟨.status token p, aborted', ended⟩)
    ⟨aborted, ht⟩ ?_
  rintro a ha u u' ⟨aborted', hu⟩ hc
  by_cases service : a = .service
  · subst service
    obtain ⟨aborted'', hu'⟩ := hc.service_task hu
    exact ⟨aborted'', hu'⟩
  · have ne : a ≠ .status := fun eq => no (eq ▸ ha)
    refine ⟨aborted', hc.task_eq service hu ?_⟩
    cases a <;> simp_all [Author.owns, Activity.isWork]

theorem StatusPoint.Rests.same {p : StatusPoint} (h : p.Rests w) (known : p.Knows w)
    (same : SameActive w w') : p.Rests w' := by
  cases p with
  | starting => exact h
  | hidden seen => exact h.trans (by rw [same.1])
  | watching seen d seenActivation storeOpen =>
    obtain ⟨seen, stored⟩ := h
    refine ⟨seen.trans (by rw [same.1]), ?_⟩
    rw [same.2 d (known.2.1 seen)]
    exact stored

theorem Indicates.quiet_move (hi : Indicates w) (hw : Sound w) (waits : w.isReady statusTask = false)
    (m : Move) (same : SameActive w (w.move m)) :
    (w.move m).isReady statusTask = false ∧ (w.move m).indications = w.indications := by
  have hc := hw.move_chain m
  rcases hw.status_authors m with ⟨rfl, -⟩ | no
  · have stays : w.move (.step statusTask) = w := step_of_unready waits
    rw [stays]
    exact ⟨waits, rfl⟩
  · refine ⟨?_, hc.indications_eq no⟩
    have hi' := hi.chain hw hc
    have hw' := hw.chain hc
    -- A task that waits after its scope was released has ended.
    cases alive : w.service.scope.isReleased with
    | true =>
      obtain ⟨p, aborted, ended, ht, -⟩ := hi.task
      have runs := canRun_of_released (p := p) (hw.isCancelled_status.trans alive)
      have ending : ended = true := by simpa [isReady, ht, runs] using waits
      obtain ⟨aborted', ht'⟩ := hc.status_task no ht
      simp [isReady, ht', ending]
    | false =>
      obtain ⟨p, ht, known, rests⟩ := hi.rests hw alive waits
      have alive' : (w.move m).service.scope.isReleased = false := by
        have live := hi'.live
        rw [same.1, hi.live, alive] at live
        simpa using live.symm
      obtain ⟨aborted', ht'⟩ := hc.status_task no ht
      obtain ⟨-, -, ending⟩ := hi'.of_task ht'
      have still : aborted' = false := by
        rw [alive'] at ending
        cases aborted' <;> simp_all
      have stays := (canRun_iff hw' hi' p alive').mpr (rests.same known same)
      simp [isReady, ht', still, stays]

theorem Indicates.quiet (hi : Indicates w) (hw : Sound w) (waits : w.isReady statusTask = false)
    (more : List Move) (same : ∀ past, past <+: more → SameActive w (w.run past)) :
    (w.run more).isReady statusTask = false ∧ (w.run more).indications = w.indications := by
  induction more using List.reverseRecOn with
  | nil => exact ⟨waits, rfl⟩
  | append_singleton more m ih =>
    obtain ⟨waits', kept⟩ := ih fun past hp => same past (hp.trans (List.prefix_append _ _))
    have before := same more (List.prefix_append _ _)
    have after := same (more ++ [m]) List.prefix_rfl
    rw [run_concat] at after ⊢
    have step : SameActive (w.run more) ((w.run more).move m) := by
      refine ⟨after.1.trans before.1.symm, fun d hd => ?_⟩
      rw [before.1] at hd
      exact (after.2 d hd).trans (before.2 d hd).symm
    obtain ⟨still, silent⟩ := (hi.run hw more).quiet_move (hw.run more) waits' m step
    exact ⟨still, silent.trans kept⟩

theorem activation_modifyActivation {e : DiagramNo} (f : Watched Bool → Watched Bool)
    (other : w.diagrams[d]?.map Diagram.store ≠ w.diagrams[e]?.map Diagram.store) :
    (w.modifyActivation e f).activation? d = w.activation? d := by
  cases he : w.diagrams[e]? with
  | none => simp only [modifyActivation, he]
  | some x =>
    rw [modifyActivation_eq he, activation?, activation?]
    cases hd : w.diagrams[d]? with
    | none => rfl
    | some y =>
      have ne : x.store ≠ y.store := by
        intro eq
        simp [hd, he, eq] at other
      simp [ne]

theorem modifyActivation_frame (e : DiagramNo) (f : Watched Bool → Watched Bool) :
    (w.modifyActivation e f).tasks = w.tasks ∧ (w.modifyActivation e f).service = w.service ∧
      (w.modifyActivation e f).history = w.history ∧ (w.modifyActivation e f).now = w.now := by
  unfold modifyActivation
  split <;> exact ⟨rfl, rfl, rfl, rfl⟩

/-- A step of the status indicator's task records what follows from the service and the watched store. -/
theorem stepStatus_history {u : Workspace} {token : Token} {p : StatusPoint}
    (service : u.service = w.service) (history : u.history = w.history) (now : u.now = w.now)
    (seen : p.seen? = some w.service.active.changes)
    (watched : ∀ n d x o, p = .watching n d x o → u.activation? d = w.activation? d) :
    (u.stepStatus t token p).history = (w.stepStatus t token p).history := by
  cases p with
  | starting => cases seen
  | hidden n =>
    obtain rfl := Option.some.inj seen
    simp only [stepStatus, service, Watched.isNews, bne_self_eq_false, Bool.false_eq_true, if_false]
    split
    · exact history
    · split <;> exact history
  | watching n d x o =>
    obtain rfl := Option.some.inj seen
    simp only [stepStatus, service, watched _ d x o rfl, Watched.isNews, bne_self_eq_false,
      Bool.false_eq_true, if_false]
    split
    · exact history
    · split
      · exact history
      · split
        · exact history
        · split
          · exact history
          · split
            · simp [indicate, record, moveTo, history, now]
            · split
              · exact history
              · simp [indicate, record, moveTo, history, now]

theorem Indicates.elsewhere (hi : Indicates w) (seen : w.HasSeenActive) (e : DiagramNo)
    (f : Watched Bool → Watched Bool)
    (other : ∀ d, w.service.active.value = some d →
      w.diagrams[d]?.map Diagram.store ≠ w.diagrams[e]?.map Diagram.store) :
    (w.modifyActivation e f).isReady statusTask = w.isReady statusTask ∧
      ((w.modifyActivation e f).step statusTask).indications = (w.step statusTask).indications := by
  obtain ⟨tasks, service, history, now⟩ := modifyActivation_frame (w := w) e f
  obtain ⟨token, p, aborted, ended, ht, hseen⟩ := seen
  obtain ⟨rfl, known, -⟩ := hi.of_task ht
  have watched : ∀ n d x o, p = .watching n d x o →
      (w.modifyActivation e f).activation? d = w.activation? d := by
    rintro n d x o rfl
    obtain rfl := Option.some.inj hseen
    exact activation_modifyActivation f (other d (known.2.1 rfl))
  -- What the task waits for is the service and the store that it watches.
  have runs : (w.modifyActivation e f).canRun (.status [0] p) = w.canRun (.status [0] p) := by
    cases p with
    | starting => rfl
    | hidden n => simp only [canRun, service]
    | watching n d x o => simp only [canRun, service, watched n d x o rfl]
  have ready : (w.modifyActivation e f).isReady statusTask = w.isReady statusTask := by
    simp only [isReady, tasks, ht, runs]
  refine ⟨ready, ?_⟩
  have same : ((w.modifyActivation e f).step statusTask).history = (w.step statusTask).history := by
    unfold step
    rw [tasks, ht]
    simp only [ready]
    split
    · exact history
    · split
      · exact history
      · exact stepStatus_history service history now hseen watched
  simp only [indications, timeline, same]

/-- In every run, whatever the hosts do, the status indicator follows the active diagram. -/
theorem run_indicatorFollows (settings : Settings) (visible : List Url) (symbols : List Symbol)
    (conduct : Conduct) (moves : List Move) :
    IndicatorFollows ((Workspace.new settings visible symbols conduct).run moves) := by
  have hw := (Sound.new settings visible symbols conduct).run moves
  have hi := (Indicates.new settings visible symbols conduct).run
    (Sound.new settings visible symbols conduct) moves
  constructor
  case truthful =>
    intro m
    have hc := hw.move_chain m
    rcases hw.status_authors m with ⟨-, status⟩ | no
    · rw [status] at hc
      obtain ⟨same, new, hn, true⟩ := hi.chain_indications hw hc
      exact ⟨new, hn, fun i hi => ⟨true i hi, by rw [same]; exact true i hi⟩⟩
    · exact ⟨[], by rw [hc.indications_eq no, List.append_nil], by simp⟩
  case settled => exact hi.settled hw
  case quiet => exact fun waits more same => (hi.quiet hw waits more same).2
  case elsewhere => exact hi.elsewhere

/-- A diagram becomes active after two other changes of the focus, and its activation is written while the
task waits. When all tasks wait once more, each of the two was shown once. -/
theorem run_indicatorFollows_written :
    let id : Url := ⟨"file:///written.rs", by decide +kernel⟩
    let w := (Workspace.new .default [] [] (.prompt false false)).run
      [.step 0, .openDiagram id (.fresh false) false true, .step 1, .focusDiagram (some id),
        .focusDiagram none, .focusDiagram (some id), .step 0, .request (.activate 0 true) none, .step 2,
        .step 2, .step 0]
    (∀ t, w.isReady t = false) ∧
      w.indications = [.hidden, .ofActivation false, .ofActivation true] ∧ w.activeState = some true ∧
      w.indications.getLast? = some (.ofState w.activeState) := by
  intro id w
  have waits : ∀ t, w.isReady t = false := all_wait (by decide +kernel)
  exact ⟨waits, by decide +kernel, by decide +kernel,
    (run_indicatorFollows _ _ _ _ _).settled (by decide +kernel) (waits statusTask)⟩

end DiagramLinks
