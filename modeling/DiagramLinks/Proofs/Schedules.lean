import DiagramLinks.Proofs.Sound
import DiagramLinks.Script

namespace DiagramLinks

open Workspace

variable {w w' w'' : Workspace} {t : TaskNo}

namespace Workspace

/-- A run of moves leads from one workspace to the other. -/
def LeadsTo (w w' : Workspace) : Prop := ∃ moves, w.run moves = w'

theorem leadsTo_move (w : Workspace) (m : Move) : w.LeadsTo (w.move m) := ⟨[m], rfl⟩

theorem leadsTo_carryOut (m : Move) (held : w.service.held = true) : w.LeadsTo (w.carryOut m) := by
  have carried : w.move m = w.carryOut m := by simp [move, held]
  exact carried ▸ leadsTo_move w m

namespace LeadsTo

theorem refl (w : Workspace) : w.LeadsTo w := ⟨[], rfl⟩

theorem trans (h : w.LeadsTo w') (h' : w'.LeadsTo w'') : w.LeadsTo w'' := by
  obtain ⟨moves, rfl⟩ := h
  obtain ⟨more, rfl⟩ := h'
  exact ⟨moves ++ more, run_append w moves more⟩

end LeadsTo

theorem IsReached.leadsTo (h : w.IsReached) (more : w.LeadsTo w') : w'.IsReached := by
  obtain ⟨settings, visible, symbols, conduct, moves, rfl⟩ := h
  obtain ⟨after, rfl⟩ := more
  exact ⟨settings, visible, symbols, conduct, moves ++ after, (run_append _ _ _).symm⟩

end Workspace

namespace Schedule

variable {s : Schedule}

theorem leadsTo_runTask (w : Workspace) (t : TaskNo) (limit : Nat) : w.LeadsTo (runTask w t limit) := by
  induction limit generalizing w with
  | zero => exact .refl w
  | succ limit ih =>
    unfold runTask
    split
    · exact (leadsTo_move w (.step t)).trans (ih _)
    · exact .refl w

theorem leadsTo_settleWithin (s : Schedule) (limit : Nat) :
    s.workspace.LeadsTo (s.settleWithin limit).workspace := by
  induction limit generalizing s with
  | zero => exact .refl _
  | succ limit ih =>
    unfold settleWithin
    split
    · exact .refl _
    · next t rest queue =>
      have ran : s.workspace.LeadsTo
          ({ s with queue := rest }.update fun w => runTask w t stepLimit).workspace :=
        leadsTo_runTask s.workspace t stepLimit
      exact ran.trans (ih _)

theorem leadsTo_settle (s : Schedule) : s.workspace.LeadsTo s.settle.workspace :=
  leadsTo_settleWithin s.refresh stepLimit

theorem leadsTo_passTo (s : Schedule) (time : Nat) : s.workspace.LeadsTo (s.passTo time).workspace :=
  leadsTo_move s.workspace (.wait (time - s.workspace.now))

theorem leadsTo_advanceWithin (s : Schedule) (time limit : Nat) :
    s.workspace.LeadsTo (s.advanceWithin time limit).workspace := by
  induction limit generalizing s with
  | zero => exact .refl _
  | succ limit ih =>
    have last : s.workspace.LeadsTo (s.settle.passTo time).settle.workspace :=
      ((leadsTo_settle s).trans (leadsTo_passTo _ time)).trans (leadsTo_settle _)
    simp only [advanceWithin]
    split
    · exact last
    · next wake next =>
      split
      · exact ((leadsTo_settle s).trans (leadsTo_passTo _ wake)).trans (ih _)
      · exact last

theorem leadsTo_advance (s : Schedule) (milliseconds : Nat) :
    s.workspace.LeadsTo (s.advance milliseconds).workspace :=
  leadsTo_advanceWithin s _ stepLimit

theorem leadsTo_awaitWithin (s : Schedule) (t : TaskNo) (limit : Nat) :
    s.workspace.LeadsTo (s.awaitWithin t limit).workspace := by
  induction limit generalizing s with
  | zero => exact .refl _
  | succ limit ih =>
    have ran : s.workspace.LeadsTo (s.update fun w => runTask w t stepLimit).workspace :=
      leadsTo_runTask s.workspace t stepLimit
    simp only [awaitWithin]
    split
    · exact ran
    · have settled := ran.trans (leadsTo_settle _)
      split
      · exact settled
      · next wake next => exact (settled.trans (leadsTo_passTo _ wake)).trans (ih _)

theorem leadsTo_await (s : Schedule) (r : Request) :
    s.workspace.LeadsTo (s.await r).1.workspace := by
  have asked : s.workspace.LeadsTo (s.update fun w => w.move (.request r none)).workspace :=
    leadsTo_move s.workspace (.request r none)
  exact asked.trans (leadsTo_awaitWithin _ _ stepLimit)

/-- A task that runs on its own is ready only while it is in the queue. -/
def IsAlert (s : Schedule) : Prop :=
  ∀ (t : TaskNo) task, s.workspace.tasks[t]? = some task → isOwn task = true →
    s.workspace.isReady t = true → t ∈ s.queue

theorem isAlert_refresh (s : Schedule) : s.refresh.IsAlert := by
  intro t task ht own ready
  have ready : s.workspace.isReady t = true := ready
  have inside : t < s.workspace.tasks.length := (List.getElem?_eq_some_iff.mp ht).1
  have known : s.workspace.tasks[t]? = some task := ht
  by_cases queued : t ∈ s.queue
  · exact List.mem_append_left _ queued
  · apply List.mem_append_right
    exact List.mem_filter.mpr ⟨List.mem_range.mpr inside, by simp [known, own, ready, queued]⟩

theorem isAlert_settleWithin (limit : Nat) (h : s.IsAlert) : (s.settleWithin limit).IsAlert := by
  induction limit generalizing s with
  | zero => exact h
  | succ limit ih =>
    unfold settleWithin
    split
    · exact h
    · exact ih (isAlert_refresh _)

/-- When the queue has run empty, every task that runs on its own waits. -/
theorem settle_waits (s : Schedule) (empty : s.settle.queue = []) {t : TaskNo} {task : Task}
    (ht : s.settle.workspace.tasks[t]? = some task) (own : isOwn task = true) :
    s.settle.workspace.isReady t = false := by
  apply Bool.eq_false_iff.mpr
  intro ready
  have queued := isAlert_settleWithin stepLimit (isAlert_refresh s) t task ht own ready
  have empty : (s.refresh.settleWithin stepLimit).queue = [] := empty
  rw [empty] at queued
  cases queued

end Schedule

namespace Script

/-- If a step of a script is carried out, a run of moves leads to the state after it. -/
def Leads (s : State) (done : Except StepError (State × Answer)) : Prop :=
  ∀ s' answer, done = .ok (s', answer) → s.workspace.LeadsTo s'.workspace

namespace Leads

variable {s : State} {done : Except StepError (State × Answer)}

theorem ok {s' : State} {answer : Answer} (h : s.workspace.LeadsTo s'.workspace) :
    Leads s (.ok (s', answer)) := by
  rintro _ _ ⟨⟩
  exact h

theorem bind {α : Type} {x : Except StepError α} {f : α → Except StepError (State × Answer)}
    (h : ∀ a, x = .ok a → Leads s (f a)) : Leads s (x >>= f) := by
  cases x with
  | error e => exact fun _ _ failed => nomatch failed
  | ok a => exact h a rfl

end Leads

theorem leadsTo_move (s : State) (m : Move) : s.workspace.LeadsTo (s.move m).workspace :=
  Workspace.leadsTo_move s.workspace m

theorem held_of_needService {s : State} (h : s.needService = .ok ()) :
    s.workspace.service.held = true := by
  unfold State.needService at h
  split at h
  · assumption
  · cases h

theorem leads_perform (s : State) (step : Step) : Leads s (perform s step) := by
  cases step with
  | openDiagram name id activated hasNode lone =>
    refine .bind fun id _ => ?_
    -- With or without a service, the diagram is opened by one move.
    have opened (names : List String) (held : List DiagramNo) : Leads s
        (.ok ({ s.move (.openDiagram id (.fresh activated) hasNode !lone) with names, lone := held },
          .text id.text)) :=
      .ok (leadsTo_move s (.openDiagram id (.fresh activated) hasNode !lone))
    cases lone with
    | true => exact opened _ _
    | false => exact .bind fun _ _ => opened _ _
  | event name e =>
    refine .bind fun d hd => ?_
    exact .ok (leadsTo_move s (.send d e))
  | endEvents name =>
    refine .bind fun d hd => ?_
    exact .ok (leadsTo_move s (.endEvents d))
  | closeDiagram id =>
    refine .bind fun id hid => .bind fun _ held => ?_
    exact .ok (leadsTo_carryOut (.closeDiagram id) (held_of_needService held))
  | closeSession name =>
    refine .bind fun d hd => ?_
    split
    · exact .ok (leadsTo_move s (.closeSession d))
    · exact .ok (.refl _)
  | dropSession name =>
    refine .bind fun d hd => ?_
    split
    · exact .ok (leadsTo_move s (.dropSession d))
    · exact .ok (.refl _)
  | isSessionClosed name => exact .bind fun d hd => .ok (.refl _)
  | dropService => exact .ok (leadsTo_move s .dropService)
  | focusDiagram id =>
    refine .bind fun _ held => .bind fun id hid => ?_
    exact .ok (leadsTo_move s (.focusDiagram id))
  | addEditor name uri selection =>
    refine .bind fun uri hu => ?_
    exact .ok (leadsTo_move s (.addEditor selection))
  | select name selection =>
    refine .bind fun e he => ?_
    exact .ok (leadsTo_move s (.select e.1 selection))
  | focusEditor target =>
    refine .bind fun _ held => ?_
    have focused (e : Option (EditorId × Url)) :
        Leads s (.ok (s.move (.focusEditor e), .nothing)) :=
      .ok (leadsTo_move s (.focusEditor e))
    cases target with
    | named name => exact .bind fun e _ => focused e
    | gone id uri => exact .bind fun uri _ => focused (some (id, uri))
    | none => exact focused none
  | setNode name selected =>
    refine .bind fun d hd => ?_
    exact .ok (leadsTo_move s (.setNode d selected))
  | describe name => exact .bind fun d hd => .ok (.refl _)
  | closeStore name =>
    refine .bind fun d hd => ?_
    exact .ok (leadsTo_move s (.closeStore d))
  | request tag wish =>
    refine .bind fun r hr => ?_
    split
    · exact .ok (leadsTo_move s (.request r _))
    · exact .ok (s.schedule.leadsTo_await r)
  | readSettings settings =>
    refine .bind fun _ held => ?_
    exact .ok (leadsTo_carryOut (.readSettings settings) (held_of_needService held))
  | setSettings patch =>
    refine .bind fun _ held => ?_
    exact .ok (leadsTo_move s (.setSettings _))
  | setRevealSettings patch => exact .ok (leadsTo_move s (.setRevealSettings _))
  | settings => exact .bind fun _ held => .ok (.refl _)
  | setVisible uris =>
    refine .bind fun visible hv => ?_
    exact .ok (leadsTo_move s (.setVisible visible))
  | setRefusal operation on => exact .ok (leadsTo_move s (.setRefusal operation on))
  | setLatency operation milliseconds => exact .ok (leadsTo_move s (.setLatency operation milliseconds))
  | advance milliseconds => exact .ok (s.schedule.leadsTo_advance milliseconds)
  | batch steps => exact .ok (.refl _)
  | unknown name => exact fun _ _ failed => nomatch failed

mutual

theorem leadsTo_carryOut (s : State) (step : Step) :
    s.workspace.LeadsTo (carryOut s step).1.workspace := by
  cases step with
  | batch steps =>
    rw [carryOut]
    exact leadsTo_carryOutAll s steps
  | _ =>
    rw [carryOut]
    · split
      · next done => exact leads_perform s _ _ _ done
      · exact .refl _
    · intro steps eq
      cases eq

theorem leadsTo_carryOutAll (s : State) (steps : List Step) :
    s.workspace.LeadsTo (carryOutAll s steps).1.workspace := by
  cases steps with
  | nil =>
    rw [carryOutAll]
    exact .refl _
  | cons step rest =>
    rw [carryOutAll]
    exact (leadsTo_carryOut s step).trans (leadsTo_carryOutAll _ rest)

end

/-- The workspace at the end is led to, and so is that of every report on the way. -/
theorem leadsTo_run (s : State) (steps : List Step) :
    s.workspace.LeadsTo (run s steps).1.workspace ∧ ∀ report ∈ (run s steps).2,
      ∃ w answer reported, s.workspace.LeadsTo w ∧ w.LeadsTo (run s steps).1.workspace ∧
        report = .of w answer reported := by
  induction steps generalizing s with
  | nil => exact ⟨.refl _, fun _ none => absurd none List.not_mem_nil⟩
  | cons step rest ih =>
    have here : s.workspace.LeadsTo (carryOut s step).1.schedule.settle.workspace :=
      (leadsTo_carryOut s step).trans (Schedule.leadsTo_settle _)
    obtain ⟨last, reports⟩ := ih
      { (carryOut s step).1 with
        schedule := (carryOut s step).1.schedule.settle
        reported := (carryOut s step).1.schedule.settle.workspace.history.length }
    refine ⟨here.trans last, fun report shown => ?_⟩
    rcases List.mem_cons.mp shown with rfl | later
    · exact ⟨_, _, _, here, last, rfl⟩
    · obtain ⟨w, answer, reported, before, after, same⟩ := reports report later
      exact ⟨w, answer, reported, here.trans before, after, same⟩

/-- A script runs the service: the workspace at its end and that of each of its reports are those of a
run of moves. -/
theorem run_isReached (settings : Settings) (visible : List Url) (symbols : List Symbol)
    (conduct : Conduct) (steps : List Step) :
    (run (.start (.new settings visible symbols conduct)) steps).1.workspace.IsReached ∧
      ∀ report ∈ (run (.start (.new settings visible symbols conduct)) steps).2,
        ∃ w answer reported, w.IsReached ∧ report = .of w answer reported := by
  have start : (State.start (.new settings visible symbols conduct)).workspace.IsReached :=
    ⟨settings, visible, symbols, conduct, [], rfl⟩
  obtain ⟨last, reports⟩ := leadsTo_run (.start (.new settings visible symbols conduct)) steps
  refine ⟨start.leadsTo last, fun report shown => ?_⟩
  obtain ⟨w, answer, reported, before, -, same⟩ := reports report shown
  exact ⟨w, answer, reported, start.leadsTo before, same⟩

end Script

end DiagramLinks
