import Mathlib.Data.List.Induction
import Mathlib.Data.List.Nodup
import DiagramLinks.Proofs.Turns
import DiagramLinks.Workspace.Records

namespace DiagramLinks

open Workspace

variable {w : Workspace} {t : TaskNo} {d : DiagramNo} {m : Move} {token : Token} {problem : Problem}

/-- What users are told of when it fails. -/
inductive Undertaking
  /-- The action that a request executes. -/
  | request (t : TaskNo)
  /-- An event of a diagram. -/
  | event (d : DiagramNo)
deriving DecidableEq

structure Failure where
  undertaking : Undertaking
  problem : Problem

/-- The request that failed. -/
def Failure.request? (f : Failure) : Option TaskNo :=
  match f.undertaking with
  | .request t => some t
  | .event _ => none

/-- What went wrong with an event of a diagram. -/
def Failure.problemOf? (d : DiagramNo) (f : Failure) : Option Problem :=
  if f.undertaking = .event d then some f.problem else none

/-- What an activity undertakes that its users are told of. -/
def Activity.undertaking? (t : TaskNo) : Activity → Option Undertaking
  | .job r _ _ => if r.shownAction?.isSome then some (.request t) else none
  | .session d _ _ => some (.event d)
  | _ => none

def problem? : Except Problem Unit → Option Problem
  | .ok () => none
  | .error p => some p

/-- The failure that an undertaking ends with. -/
def Progress.failure? (p : Progress) (undertaking : Option Undertaking) : Option Failure :=
  match undertaking, p with
  | some undertaking, .over (.error problem) => some ⟨undertaking, problem⟩
  | _, _ => none

namespace Progress

@[simp] theorem failure?_waiting (q : Pending) (u : Option Undertaking) : (waiting q).failure? u = none := by
  cases u <;> rfl

@[simp] theorem failure?_ok (u : Option Undertaking) : (Progress.over (.ok ())).failure? u = none := by
  cases u <;> rfl

@[simp] theorem failure?_none (p : Progress) : p.failure? none = none := rfl

@[simp] theorem failure?_some (u : Undertaking) : (Progress.over (.error problem)).failure? (some u) =
    some ⟨u, problem⟩ := rfl

theorem failure?_eq_some {p : Progress} {u : Option Undertaking} {f : Failure} :
    p.failure? u = some f ↔ u = some f.undertaking ∧ p = .over (.error f.problem) := by
  cases f
  unfold failure?
  split <;> grind

end Progress

namespace Workspace

/-- The node whose selection an idle session takes next. -/
def nextNode? (w : Workspace) (d : DiagramNo) (token : Token) : Option NodeSelection :=
  w.diagrams[d]?.bind fun x =>
    if x.scope.isCancelled token then none
    else
      match x.inbox with
      | .selected node :: _ => some node
      | _ => none

/-- How a request or the handling of an event goes on in a step of its task. -/
def progress? (w : Workspace) : Activity → Option Progress
  | .job r _ .starting => some (w.start r).2
  | .job _ _ (.waiting q) => some (w.answer q.await).2
  | .session d token (.idle _) => (w.nextNode? d token).map fun node => (w.handle d node).2
  | .session _ _ (.handling _ q) => some (w.answer q.await).2
  | _ => none

/-- The failure that a move ends with. -/
def failure? (w : Workspace) : Move → Option Failure
  | .step t =>
    match w.tasks[t]? with
    | some ⟨b, false, false⟩ =>
      if w.canRun b then (w.progress? b).bind fun p => p.failure? (b.undertaking? t) else none
    | _ => none
  | _ => none

/-- The failures in a run, the earliest first. -/
def failures (w : Workspace) : List Move → List Failure
  | [] => []
  | m :: more => (w.failure? m).toList ++ (w.move m).failures more

/-- A request that executes an action has failed. -/
def HasFailed (w : Workspace) (t : TaskNo) (problem : Problem) : Prop :=
  ∃ r tag, w.tasks[t]? = some ⟨.job r tag (.ended (.error problem)), false, true⟩ ∧ r.shownAction?.isSome = true

end Workspace

/-- Moves with which no failure is shown. -/
inductive Quiet (w : Workspace) : Move → Prop
  /-- What users and hosts do, and the passing of time. -/
  | outside (m : Move) (h : ∀ t, m ≠ .step t) : Quiet w m
  /-- The status indicator, selection modes and retractions, also where a host fails. -/
  | aside {t : TaskNo} {x} (ht : w.tasks[t]? = some x) (h : x.activity.isWork = false) : Quiet w (.step t)
  /-- A session that was closed is dropped with the event that it handles. -/
  | abandoned {t : TaskNo} {x} (ht : w.tasks[t]? = some x) (h : x.aborted = true) : Quiet w (.step t)
  /-- A request that executes no action, such as a toggle or a link of its own. -/
  | direct {t : TaskNo} {r tag q} (ht : w.runs t (.job r tag q)) (h : r.shownAction? = none) : Quiet w (.step t)
  /-- A toggle while no diagram is active. -/
  | inactive {t : TaskNo} {r tag} (ht : w.runs t (.job r tag .starting)) (h : r.shownAction? = some .toggleActivation)
      (none : w.service.active.value = none) : Quiet w (.step t)
  /-- A node of a diagram that is not activated, or one with neither a link nor a tag. -/
  | ignored {t : TaskNo} {d : DiagramNo} {token : Token} {bound x node rest}
      (ht : w.runs t (.session d token (.idle bound))) (hd : w.diagrams[d]? = some x)
      (inbox : x.inbox = .selected node :: rest)
      (h : w.isActivated d = false ∨ node.link = none ∧ Symbol.tag? node.label = none) : Quiet w (.step t)
  /-- The first sign of a diagram, and any one after it. -/
  | ready {t : TaskNo} {d : DiagramNo} {token : Token} {bound x rest} (ht : w.runs t (.session d token (.idle bound)))
      (hd : w.diagrams[d]? = some x) (inbox : x.inbox = .ready :: rest) : Quiet w (.step t)

/-- What users are told in a run. -/
structure TellsFailures (w : Workspace) (moves : List Move) : Prop where
  /-- There is one message for each failure, in the order in which they happen. -/
  messages : (w.run moves).errors = (w.failures moves).map (·.problem.message)
  /-- The requests among the failures are those that execute an action and have failed. -/
  requests : ∀ t problem, ⟨.request t, problem⟩ ∈ w.failures moves ↔ (w.run moves).HasFailed t problem
  /-- No request fails twice. -/
  once : ((w.failures moves).filterMap Failure.request?).Nodup
  /-- The events among the failures are those whose handling has failed, in their order. -/
  events : ∀ d, (w.failures moves).filterMap (Failure.problemOf? d) =
    (resultsIn d (w.run moves).history).filterMap problem?
  /-- Every event that was taken has one result, but for the one that is being handled. -/
  handled : ∀ d, (resultsIn d (w.run moves).history).length ≤ (takenIn d (w.run moves).history).length ∧
    (takenIn d (w.run moves).history).length ≤ (resultsIn d (w.run moves).history).length + 1
  /-- Nothing else shows a message. -/
  silent : ∀ m, Quiet (w.run moves) m → ((w.run moves).move m).errors = (w.run moves).errors

def Event.message? : Event → Option String
  | .called (.showError message) => some message
  | _ => none

def Event.problemOf? (d : DiagramNo) : Event → Option Problem
  | .handled e result => if e = d then problem? result else none
  | _ => none

/-- An event shows no message and no failed result. -/
def Event.IsSilent (e : Event) : Prop :=
  e.message? = none ∧ ∀ d, e.problemOf? d = none

theorem errors_eq (w : Workspace) : w.errors = seenIn Event.message? w.history := by
  unfold errors timeline seenIn
  congr! 2

theorem filterMap_resultsIn (d : DiagramNo) (history : List Entry) :
    (resultsIn d history).filterMap problem? = seenIn (Event.problemOf? d) history := by
  unfold resultsIn seenIn
  rw [List.filterMap_reverse, List.filterMap_filterMap]
  congr 2
  funext entry
  unfold Event.result? Event.problemOf?
  cases entry.event <;> first | rfl | (dsimp only; split <;> rfl)

theorem isSilent_of_isAside {e : Event} (aside : e.isAside = true) : e.IsSilent := by
  unfold Event.isAside at aside
  split at aside <;> first | exact ⟨rfl, fun _ => rfl⟩ | cases aside

theorem isSilent_highlightEvents {s : Settings} {l : Location} {e : Event} (he : e ∈ w.highlightEvents s l) :
    e.IsSilent := by
  simp only [highlightEvents, clearing, List.mem_cons, List.mem_append, Option.mem_toList,
    Option.map_eq_some_iff, List.not_mem_nil, or_false] at he
  rcases he with rfl | rfl | ⟨h, -, rfl⟩ | rfl | rfl <;> exact ⟨rfl, fun _ => rfl⟩

theorem Await.isSilent (a : Await) : (Event.called a.call).IsSilent := by
  cases a <;> exact ⟨rfl, fun _ => rfl⟩

theorem Answers.isSilent {a : Await} {new : List Event} {p : Progress} (h : Answers w a new p) :
    ∀ e ∈ new, e.IsSilent := by
  intro e he
  cases h with
  | shows s l =>
    rcases List.mem_append.mp he with he | he
    · exact isSilent_highlightEvents he
    · obtain rfl := List.mem_singleton.mp he
      exact ⟨rfl, fun _ => rfl⟩
  | _ =>
    simp only [List.mem_cons, List.not_mem_nil, or_false] at he
    try rcases he with rfl | rfl | rfl
    all_goals exact ⟨rfl, fun _ => rfl⟩

theorem Handles.isSilent {node : NodeSelection} {new : List Event} {p : Progress}
    (h : Handles w d node new p) : ∀ e ∈ new, e.IsSilent := by
  intro e he
  cases h with
  | follows link good => exact List.mem_singleton.mp he ▸ Await.isSilent _
  | searches link tag => exact List.mem_singleton.mp he ▸ Await.isSilent _
  | _ => cases he

theorem Starts.isSilent {r : Request} {new : List Event} {p : Progress} (h : Starts w r new p) :
    ∀ e ∈ new, e.IsSilent := by
  intro e he
  cases h with
  | handles h => exact h.isSilent e he
  | ends => cases he
  | flips hd =>
    simp only [List.mem_cons, List.not_mem_nil, or_false] at he
    rcases he with rfl | rfl <;> exact ⟨rfl, fun _ => rfl⟩
  | _ => exact List.mem_singleton.mp he ▸ Await.isSilent _

/-- What entries show: the message of a failure and the failed result of an event. -/
structure Shows (extra : List Entry) (f : Option Failure) : Prop where
  message : seenIn Event.message? extra = (f.map (·.problem.message)).toList
  event : ∀ d, seenIn (Event.problemOf? d) extra = (f.bind (Failure.problemOf? d)).toList

namespace Shows

variable {extra new : List Entry} {f : Option Failure}

theorem of_silent (silent : ∀ e ∈ new, e.event.IsSilent) : Shows new none where
  message := seenIn_eq_nil fun e he => (silent e he).1
  event d := seenIn_eq_nil fun e he => (silent e he).2 d

theorem append (h : Shows extra f) (silent : ∀ e ∈ new, e.event.IsSilent) : Shows (extra ++ new) f where
  message := by rw [seenIn_append, (of_silent silent).message, h.message]; rfl
  event d := by rw [seenIn_append, (of_silent silent).event d, h.event d]; rfl

/-- What a job tells of its result. -/
theorem concludes (r : Request) (tag : Option String) (q : JobPoint) (t : TaskNo) (p : Progress) (n : Nat) :
    Shows ((r.concludes tag p).map (Entry.mk n)) (p.failure? (Activity.undertaking? t (.job r tag q))) := by
  have finished (result) : (Event.finished r tag result).IsSilent := ⟨rfl, fun _ => rfl⟩
  match p with
  | .waiting q =>
    rw [Progress.failure?_waiting]
    exact of_silent (by simp [Request.concludes])
  | .over (.ok ()) =>
    have told : r.tells (.ok ()) = [] := by
      unfold Request.tells
      cases r.shownAction? <;> rfl
    rw [Progress.failure?_ok]
    exact of_silent (by simp [Request.concludes, told, finished])
  | .over (.error problem) =>
    cases shown : r.shownAction? with
    | none =>
      have hidden : Activity.undertaking? t (.job r tag q) = none := by simp [Activity.undertaking?, shown]
      rw [hidden, Progress.failure?_none]
      exact of_silent (by simp [Request.concludes, Request.tells, shown, finished])
    | some action =>
      have told : Activity.undertaking? t (.job r tag q) = some (.request t) := by
        simp [Activity.undertaking?, shown]
      rw [told]
      constructor <;> simp [Request.concludes, Request.tells, shown, seenIn, Event.message?, Event.problemOf?,
        Failure.problemOf?]

theorem reports (w : Workspace) (d : DiagramNo) (p : Progress) (n : Nat) :
    Shows ((w.reports d p).map (Entry.mk n)) (p.failure? (some (.event d))) := by
  match p with
  | .waiting q =>
    rw [Progress.failure?_waiting]
    exact of_silent (by simp [Workspace.reports])
  | .over (.ok ()) =>
    have silent : (Event.handled d (.ok ())).IsSilent :=
      ⟨rfl, fun e => by simp [Event.problemOf?, problem?]⟩
    rw [Progress.failure?_ok]
    exact of_silent (by simp [Workspace.reports, silent])
  | .over (.error problem) =>
    constructor
    · cases hd : w.diagrams[d]? <;> simp [Workspace.reports, hd, seenIn, Event.message?]
    · intro e
      cases hd : w.diagrams[d]? <;> by_cases same : d = e <;>
        simp [Workspace.reports, hd, seenIn, Event.problemOf?, problem?, Failure.problemOf?, same]

end Shows

/-- A job that is ready goes on, and tells what it ends with. -/
theorem Sound.step_request {r : Request} {tag : Option String} {q : JobPoint} (hw : Sound w)
    (ht : w.runs t (.job r tag q)) (ready : w.isReady t = true) : ∃ p new,
      w.progress? (.job r tag q) = some p ∧ (∀ e ∈ new, Event.IsSilent e) ∧
      (w.step t).history = (r.concludes tag p ++ new).map (Entry.mk w.now) ++ w.history ∧
      (w.step t).tasks[t]? = some ⟨.job r tag p.jobPoint, false, p.isOver⟩ := by
  cases q with
  | starting =>
    obtain ⟨new, starts, records⟩ := start_starts w r
    exact ⟨_, new, rfl, starts.isSilent, hw.step_goesOn ht _ records (step_of_job ht ready)⟩
  | waiting q =>
    obtain ⟨new, answers, goes⟩ := hw.step_waiting ht ready
    exact ⟨_, new, rfl, answers.isSilent, goes⟩
  | ended result => simp [isReady, ht, canRun] at ready

/-- Taking an event changes nothing that its handling looks at. -/
theorem handle_taken {x : Diagram} {rest : List DiagramEvent} (e : Event) (node : NodeSelection)
    (hd : w.diagrams[d]? = some x) :
    (((w.modifyDiagram d fun x => { x with inbox := rest }).record e).handle d node).2 =
      (w.handle d node).2 := by
  have activation : ((w.modifyDiagram d fun x => { x with inbox := rest }).record e).isActivated d =
      w.isActivated d := by
    simp [isActivated, activation?, modifyDiagram, record, hd]
  unfold handle
  rw [activation]
  split
  · cases node.link with
    | some data => dsimp only; cases Location.ofJson data <;> rfl
    | none => dsimp only; cases Symbol.tag? node.label <;> rfl
  · rfl

/-- What a session tells of the event it is at, if it is at one. -/
def Workspace.tells (w : Workspace) (d : DiagramNo) (p : Option Progress) : List Event :=
  (p.map (w.reports d)).getD []

/-- A session that is ready goes on, and tells what the handling of an event ends with. -/
theorem Sound.step_event {q : SessionPoint} (hw : Sound w) (ht : w.runs t (.session d token q))
    (ready : w.isReady t = true) : ∃ new, (∀ e ∈ new, Event.IsSilent e) ∧
      (w.step t).history =
        (w.tells d (w.progress? (.session d token q)) ++ new).map (Entry.mk w.now) ++ w.history := by
  obtain ⟨-, valid⟩ := hw.roster.session t d token (spawned_of_task ht)
  have hd := List.getElem?_eq_getElem valid
  have step : w.step t = w.stepSession t d token q := by simp [Workspace.step, ht, ready]
  cases q with
  | starting =>
    refine ⟨[.noted (.sessionOpened w.diagrams[d].id)], by simp [Event.IsSilent, Event.message?,
      Event.problemOf?], ?_⟩
    simp [step, stepSession, hd, moveTo, note, record, tells, progress?]
  | handling bound q =>
    obtain ⟨new, answers, history, -⟩ := step_handling ht ready
    exact ⟨new, answers.isSilent, history⟩
  | idle bound =>
    rw [step]
    simp only [stepSession, stepIdle, hd, progress?, nextNode?, Option.bind_some]
    split
    · exact ⟨[], by simp, rfl⟩
    · split
      · next inbox => split <;> exact ⟨[], by simp, by rw [inbox]; rfl⟩
      · next e rest inbox =>
        rw [inbox]
        cases e with
        | ready =>
          refine ⟨[.handled d (.ok ()), .taken d .ready], by simp [Event.IsSilent, Event.message?,
            Event.problemOf?, problem?], ?_⟩
          dsimp only
          split <;> rfl
        | selected node =>
          dsimp only [Option.map_some]
          rw [handle_taken _ node hd]
          -- Handling looks at nothing that taking the event changes, so it goes on from `u` as from `w`.
          generalize hu : (w.modifyDiagram d fun x => { x with inbox := rest }).record
            (.taken d (.selected node)) = u
          obtain ⟨new, handles, records⟩ := handle_handles u d node
          have reports (p : Progress) : (u.handle d node).1.reports d p = w.reports d p := by
            unfold Workspace.reports
            rw [records.diagrams, ← hu]
            simp [modifyDiagram, record, hd]
          refine ⟨new ++ [.taken d (.selected node)], ?_, ?_⟩
          · simp only [List.mem_append, List.mem_singleton]
            rintro e (he | rfl)
            · exact handles.isSilent e he
            · exact ⟨rfl, fun _ => rfl⟩
          · rw [continueSession_eq, reports, records.now, records.history, ← hu]
            simp [tells, record, modifyDiagram]

theorem failure?_of_runs {b : Activity} (ht : w.runs t b) (ready : w.isReady t = true) :
    w.failure? (.step t) = (w.progress? b).bind fun p => p.failure? (b.undertaking? t) := by
  have can : w.canRun b = true := by
    simpa only [isReady, ht, Bool.not_false, Bool.true_and, Bool.false_or] using ready
  simp only [failure?, show w.tasks[t]? = _ from ht, can, if_true]

theorem failure?_eq_some {f : Failure} (h : w.failure? m = some f) : ∃ t b p, m = .step t ∧ w.runs t b ∧
    w.isReady t = true ∧ w.progress? b = some p ∧ b.undertaking? t = some f.undertaking ∧
      p = .over (.error f.problem) := by
  unfold failure? at h
  split at h
  · next t =>
    split at h
    · next b ht =>
      split at h
      · next can =>
        obtain ⟨p, hp, failed⟩ := Option.bind_eq_some_iff.mp h
        have ready : w.isReady t = true := by simp [isReady, ht, can]
        exact ⟨t, b, p, rfl, ht, ready, hp, Progress.failure?_eq_some.mp failed⟩
      · cases h
    · cases h
  · cases h

theorem isWork_of_undertaking {b : Activity} {u : Undertaking} (h : b.undertaking? t = some u) :
    b.isWork = true := by
  cases b <;> first | rfl | cases h

/-- A move shows its failure, if it ends with one, and nothing else. -/
theorem Sound.move_shows (hw : Sound w) (m : Move) :
    ∃ extra, (w.move m).history = extra ++ w.history ∧ Shows extra (w.failure? m) := by
  by_cases works : ∃ t b, m = .step t ∧ w.runs t b ∧ b.isWork = true ∧ w.isReady t = true
  · obtain ⟨t, b, rfl, ht, work, ready⟩ := works
    rw [failure?_of_runs ht ready]
    cases b with
    | job r tag q =>
      obtain ⟨p, new, goes, silent, history, -⟩ := hw.step_request ht ready
      refine ⟨_, history, ?_⟩
      rw [goes, List.map_append]
      exact (Shows.concludes r tag q t p w.now).append (List.forall_mem_map.mpr silent)
    | session d token q =>
      obtain ⟨new, silent, history⟩ := hw.step_event ht ready
      refine ⟨_, history, ?_⟩
      rw [List.map_append]
      have silent := List.forall_mem_map (f := Entry.mk w.now) (P := fun e => e.event.IsSilent) |>.mpr silent
      cases w.progress? (.session d token q) with
      | none => exact (Shows.of_silent (by simp [tells])).append silent
      | some p => exact (Shows.reports w d p w.now).append silent
    | _ => cases work
  · have none : w.failure? m = none := by
      cases h : w.failure? m with
      | none => rfl
      | some f =>
        obtain ⟨t, b, p, rfl, ht, ready, -, undertaking, -⟩ := failure?_eq_some h
        exact absurd ⟨t, b, rfl, ht, isWork_of_undertaking undertaking, ready⟩ works
    rcases move_aside w m with ⟨new, history, aside⟩ | work
    · exact ⟨new, history, none ▸ .of_silent fun e he => isSilent_of_isAside (aside e he)⟩
    · exact absurd work works

theorem Sound.move_errors (hw : Sound w) (m : Move) :
    (w.move m).errors = w.errors ++ ((w.failure? m).map (·.problem.message)).toList := by
  obtain ⟨extra, history, shows⟩ := hw.move_shows m
  rw [errors_eq, errors_eq, history, seenIn_append, shows.message]

theorem exists_job {b : Activity} {s : TaskNo} (h : b.undertaking? s = some (.request t)) :
    s = t ∧ ∃ r tag q, b = .job r tag q ∧ r.shownAction?.isSome = true := by
  cases b with
  | job r tag q =>
    simp only [Activity.undertaking?, Option.ite_none_right_eq_some, Option.some.injEq,
      Undertaking.request.injEq] at h
    exact ⟨h.2, r, tag, q, rfl, h.1⟩
  | session d token q => cases h
  | _ => cases h

theorem Sound.request_fails (hw : Sound w) (h : w.failure? m = some ⟨.request t, problem⟩) :
    (∃ b, w.runs t b) ∧ (w.move m).HasFailed t problem := by
  obtain ⟨s, b, p, rfl, ht, ready, goes, undertaking, failed⟩ := failure?_eq_some h
  obtain ⟨rfl, r, tag, q, rfl, shown⟩ := exists_job undertaking
  obtain ⟨p', new, goes', -, -, task⟩ := hw.step_request ht ready
  obtain rfl := Option.some.inj (goes.symm.trans goes')
  subst failed
  exact ⟨⟨_, ht⟩, r, tag, task, shown⟩

theorem Sound.hasFailed_move (hw : Sound w) : (w.move m).HasFailed t problem ↔
    w.HasFailed t problem ∨ w.failure? m = some ⟨.request t, problem⟩ := by
  constructor
  · rintro ⟨r, tag, ht, shown⟩
    rcases hw.task_before ht with ⟨⟨b, aborted, ended⟩, hb, origin⟩ | ⟨-, new, -⟩
    · cases b with
      | job r' tag' q =>
        obtain ⟨rfl, rfl, -⟩ := Activity.job.inj origin
        obtain rfl : aborted = false := hw.not_aborted hb rfl
        by_cases own : m = .step t
        · subst own
          rcases step_cases w t with same | ⟨b', hb', -⟩ | ⟨b', hb', ready⟩
          · exact .inl ⟨_, _, (congrArg (·.tasks[t]?) same).symm.trans ht, shown⟩
          · cases hb.symm.trans hb'
          · obtain rfl := (Task.mk.inj (Option.some.inj (hb.symm.trans hb'))).1
            obtain ⟨p, new, goes, -, -, task⟩ := hw.step_request hb' ready
            have point := Option.some.inj (task.symm.trans ht)
            right
            rw [failure?_of_runs hb' ready, goes]
            match p with
            | .waiting q => cases point
            | .over result =>
              cases point
              simp [Activity.undertaking?, shown]
        · exact .inl ⟨_, _, (hw.move_task hb rfl own).symm.trans ht ▸ hb, shown⟩
      | _ => cases origin
    · cases new
  · rintro (⟨r, tag, ht, shown⟩ | failed)
    · exact ⟨r, tag, hw.job_ended ht [m], shown⟩
    · exact (hw.request_fails failed).2

theorem filterMap_toList {α β : Type} (f : α → Option β) (o : Option α) :
    o.toList.filterMap f = (o.bind f).toList := by
  cases o with
  | none => rfl
  | some x => cases h : f x <;> simp [h]

theorem failures_concat (moves : List Move) :
    w.failures (moves ++ [m]) = w.failures moves ++ ((w.run moves).failure? m).toList := by
  induction moves generalizing w with
  | nil => simp [failures, run]
  | cons first moves ih =>
    simp only [List.cons_append, failures, ih, List.append_assoc]
    rfl

/-- A toggle without an active diagram ends well. -/
theorem start_inactive {r : Request} (h : r.shownAction? = some .toggleActivation)
    (none : w.service.active.value = none) : (w.start r).2 = .over (.ok ()) := by
  cases r with
  | execute action =>
    obtain rfl := Option.some.inj h
    simp [start, perform, Workspace.flip, none]
  | command id =>
    have known : Action.ofCommandId? id = some .toggleActivation := h
    simp [start, known, perform, Workspace.flip, none]
  | _ => cases h

/-- A node that leads nowhere is handled at once. -/
theorem handle_ignored {node : NodeSelection}
    (h : w.isActivated d = false ∨ node.link = none ∧ Symbol.tag? node.label = none) :
    (w.handle d node).2 = .over (.ok ()) := by
  unfold handle
  split
  · next on =>
    obtain off | ⟨link, tag⟩ := h
    · rw [on] at off
      cases off
    · simp [link, tag]
  · rfl

theorem Quiet.failure?_eq_none (h : Quiet w m) : w.failure? m = none := by
  cases hf : w.failure? m with
  | none => rfl
  | some f =>
    obtain ⟨t, b, p, rfl, ht, ready, goes, undertaking, failed⟩ := failure?_eq_some hf
    have same {x : Task} (hx : w.tasks[t]? = some x) : x = ⟨b, false, false⟩ :=
      Option.some.inj (hx.symm.trans ht)
    subst failed
    cases h with
    | outside _ h => exact absurd rfl (h t)
    | aside hx h =>
      obtain rfl := same hx
      rw [isWork_of_undertaking undertaking] at h
      cases h
    | abandoned hx h =>
      obtain rfl := same hx
      cases h
    | direct hx h =>
      obtain rfl := (Task.mk.inj (same hx)).1
      simp [Activity.undertaking?, h] at undertaking
    | inactive hx h none =>
      obtain rfl := (Task.mk.inj (same hx)).1
      simp [progress?, start_inactive h none] at goes
    | ignored hx hd inbox reason =>
      obtain rfl := (Task.mk.inj (same hx)).1
      simp only [progress?, nextNode?, hd, inbox, Option.bind_some] at goes
      split at goes
      · cases goes
      · simp [handle_ignored reason] at goes
    | ready hx hd inbox =>
      obtain rfl := (Task.mk.inj (same hx)).1
      simp [progress?, nextNode?, hd, inbox] at goes

/-- An event that was taken has a result, or it is the one that is being handled. -/
theorem InOrder.results (h : InOrder w d) (hs : Served w) :
    (resultsIn d w.history).length ≤ (takenIn d w.history).length ∧
      (takenIn d w.history).length ≤ (resultsIn d w.history).length + 1 := by
  cases hx : w.diagrams[d]? with
  | none =>
    obtain ⟨-, taken⟩ := hs.channels.unopened d hx
    simp [h.unopened hx, taken]
  | some x =>
    obtain ⟨t, p, ended, ht⟩ := hs.session hx
    cases h.stage t _ p _ _ ht with
    | starting even => omega
    | idle bound even => omega
    | handling bound pends fits =>
      rw [pends.taken, pends.results, List.length_append, List.length_singleton]
      omega

/-- In every run users are told of every failure once. -/
theorem run_tellsFailures (settings : Settings) (visible : List Url) (symbols : List Symbol)
    (conduct : Conduct) (moves : List Move) :
    TellsFailures (Workspace.new settings visible symbols conduct) moves := by
  have start := Served.new settings visible symbols conduct
  have sound (moves : List Move) := (start.run moves).sound
  have requests (moves : List Move) (t : TaskNo) (problem : Problem) :
      ⟨.request t, problem⟩ ∈ (Workspace.new settings visible symbols conduct).failures moves ↔
        ((Workspace.new settings visible symbols conduct).run moves).HasFailed t problem := by
    induction moves using List.reverseRecOn with
    | nil =>
      refine iff_of_false (by simp [failures]) ?_
      rintro ⟨r, tag, ht, -⟩
      have status := List.mem_of_getElem? ht
      simp [run, Workspace.new, spawn, note, record] at status
    | append_singleton moves m ih =>
      rw [failures_concat, run_concat, (sound moves).hasFailed_move, List.mem_append, ih, Option.mem_toList]
  constructor
  case requests => exact requests moves
  case silent =>
    intro m quiet
    rw [(sound moves).move_errors, quiet.failure?_eq_none]
    exact List.append_nil _
  case handled =>
    intro d
    exact ((InOrder.new settings visible symbols conduct).run start moves).results (start.run moves)
  case messages =>
    induction moves using List.reverseRecOn with
    | nil => rfl
    | append_singleton moves m ih =>
      rw [failures_concat, run_concat, (sound moves).move_errors, ih, List.map_append]
      cases ((Workspace.new settings visible symbols conduct).run moves).failure? m <;> rfl
  case events =>
    intro d
    induction moves using List.reverseRecOn with
    | nil => rfl
    | append_singleton moves m ih =>
      obtain ⟨extra, history, shows⟩ := (sound moves).move_shows m
      rw [failures_concat, run_concat, List.filterMap_append, ih, filterMap_toList, filterMap_resultsIn,
        filterMap_resultsIn, history, seenIn_append, shows.event]
  case once =>
    induction moves using List.reverseRecOn with
    | nil => exact List.nodup_nil
    | append_singleton moves m ih =>
      rw [failures_concat, List.filterMap_append, filterMap_toList]
      refine ih.append (by cases Option.bind _ _ <;> simp) fun t earlier again => ?_
      -- A request that failed before has ended, so it runs no more.
      obtain ⟨⟨u, problem⟩, failed, request⟩ := Option.bind_eq_some_iff.mp (Option.mem_toList.mp again)
      obtain ⟨⟨u', problem'⟩, before, request'⟩ := List.mem_filterMap.mp earlier
      cases u <;> cases request
      cases u' <;> cases request'
      obtain ⟨⟨b, runs⟩, -⟩ := (sound moves).request_fails failed
      obtain ⟨r, tag, ended, -⟩ := (requests moves t problem').mp before
      cases runs.symm.trans ended

end DiagramLinks
