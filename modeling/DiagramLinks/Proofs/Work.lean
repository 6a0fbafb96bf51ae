import DiagramLinks.Proofs.Answer
import DiagramLinks.Proofs.Sound

namespace DiagramLinks

open Workspace

variable {w u v : Workspace} {s t : TaskNo} {d : DiagramNo} {token : Token}

def Progress.sessionPoint (bound : Bool) : Progress → SessionPoint
  | .waiting p => .handling bound p
  | .over _ => .idle bound

def Progress.jobPoint : Progress → JobPoint
  | .waiting p => .waiting p
  | .over result => .ended result

def Progress.isOver : Progress → Bool
  | .waiting _ => false
  | .over _ => true

namespace Workspace

/-- What a session records when it is through with an event, the latest first. -/
def reports (w : Workspace) (d : DiagramNo) : Progress → List Event
  | .waiting _ => []
  | .over (.ok ()) => [.handled d (.ok ())]
  | .over (.error p) =>
    .handled d (.error p) :: .called (.showError p.message) ::
      (w.diagrams[d]?.map fun diagram => .noted (.eventFailed diagram.id p)).toList

end Workspace

/-- What is told of the result of a request, the latest first. -/
def Request.tells (r : Request) (result : Except Problem Unit) : List Event :=
  match r.shownAction?, result with
  | some action, .error p => [.called (.showError p.message), .noted (.actionFailed action p)]
  | _, _ => []

/-- What a job records when it ends, the latest first. -/
def Request.concludes (r : Request) (tag : Option String) : Progress → List Event
  | .waiting _ => []
  | .over result => .finished r tag result :: r.tells result

/-- Whether an event tells how work went on, and is nothing that the work was about. -/
def Event.isTelling : Event → Bool
  | .handled _ _ => true
  | .finished _ _ _ => true
  | .noted _ => true
  | .called (.showError _) => true
  | _ => false

theorem isTelling_of_reports (p : Progress) : ∀ e ∈ w.reports d p, e.isTelling = true := by
  intro e he
  match p with
  | .waiting p => cases he
  | .over (.ok ()) =>
    obtain rfl := List.mem_singleton.mp he
    rfl
  | .over (.error p) =>
    simp only [Workspace.reports, List.mem_cons, Option.mem_toList, Option.map_eq_some_iff] at he
    rcases he with rfl | rfl | ⟨x, -, rfl⟩ <;> rfl

theorem isTelling_of_concludes (r : Request) (tag : Option String) (p : Progress) :
    ∀ e ∈ r.concludes tag p, e.isTelling = true := by
  intro e he
  match p with
  | .waiting p => cases he
  | .over result =>
    rcases List.mem_cons.mp he with rfl | he
    · rfl
    · unfold Request.tells at he
      split at he
      · simp only [List.mem_cons, List.not_mem_nil, or_false] at he
        rcases he with rfl | rfl <;> rfl
      · cases he

theorem continueSession_eq (w : Workspace) (t : TaskNo) (d : DiagramNo) (token : Token) (bound : Bool)
    (p : Progress) :
    w.continueSession t d token bound p =
      { w with
        history := (w.reports d p).map (Entry.mk w.now) ++ w.history
        tasks := w.tasks.modify t fun task =>
          { task with activity := .session d token (p.sessionPoint bound) } } := by
  match p with
  | .waiting p => rfl
  | .over (.ok ()) => rfl
  | .over (.error p) =>
    unfold continueSession reports
    cases w.diagrams[d]? <;> rfl

theorem releaseAll_eq (registry : List (Url × DiagramNo)) (w : Workspace) : ∃ diagrams tasks,
    registry.foldl (fun w entry => w.releaseSession entry.2) w = { w with diagrams, tasks } := by
  induction registry generalizing w with
  | nil => exact ⟨w.diagrams, w.tasks, rfl⟩
  | cons entry rest ih =>
    obtain ⟨tasks, he, -⟩ := releaseSession_eq w entry.2
    obtain ⟨diagrams, tasks, hr⟩ := ih (w.releaseSession entry.2)
    exact ⟨diagrams, tasks, by rw [List.foldl_cons, hr, he]⟩

/-- The end of the service releases its diagrams and forgets them. -/
theorem retire_eq (w : Workspace) : ∃ diagrams tasks, w.retire =
    { w with
      diagrams
      tasks
      service :=
        { w.service with
          scope := w.service.scope.release.1
          registry := []
          active := w.service.active.close } } := by
  obtain ⟨diagrams, tasks, hr⟩ := releaseAll_eq w.service.registry w
  obtain ⟨tasks, he, -⟩ :=
    endService_eq (w.service.registry.foldl (fun w entry => w.releaseSession entry.2) w)
  exact ⟨diagrams, tasks, he.trans (by rw [hr])⟩

theorem retireIfUnused_history (w : Workspace) : w.retireIfUnused.history = w.history := by
  unfold retireIfUnused
  split
  · rfl
  · obtain ⟨diagrams, tasks, he⟩ := retire_eq w
    rw [he]

theorem conclude_eq (w : Workspace) (r : Request) (result : Except Problem Unit) :
    w.conclude r result =
      { w with history := (r.tells result).map (Entry.mk w.now) ++ w.history } := by
  unfold conclude Request.tells
  cases r.shownAction? with
  | none => rfl
  | some action => cases result <;> rfl

/-- A job goes on from an answer. -/
def Workspace.goOn (w : Workspace) (t : TaskNo) (r : Request) (tag : Option String) (p : Progress) :
    Workspace :=
  { w with
    history := (r.concludes tag p).map (Entry.mk w.now) ++ w.history
    tasks := w.tasks.modify t fun task =>
      { task with activity := .job r tag p.jobPoint, ended := task.ended || p.isOver } }

/-- The end of a job may be the end of the service. -/
theorem continueJob_eq (w : Workspace) (t : TaskNo) (r : Request) (tag : Option String)
    (p : Progress) :
    w.continueJob t r tag p =
      if p.isOver then (w.goOn t r tag p).retireIfUnused else w.goOn t r tag p := by
  match p with
  | .waiting p =>
    simp only [continueJob, moveTo, goOn, Progress.jobPoint, Progress.isOver, Request.concludes,
      Bool.or_false, List.map_nil, List.nil_append, Bool.false_eq_true, if_false]
  | .over result =>
    simp only [continueJob, Progress.isOver, if_true, conclude_eq]
    congr 1
    simp [goOn, moveTo, finish, record, List.modify_modify_eq, Function.comp_def, Progress.jobPoint,
      Progress.isOver, Request.concludes]

/-- What a step of a session does: where the session stood, the events that are recorded, the latest
first, where it stands then, and whether it has ended. -/
inductive SessionStep (w : Workspace) (d : DiagramNo) (token : Token) :
    SessionPoint → List Event → SessionPoint → Bool → Prop
  | starts {x} (hd : w.diagrams[d]? = some x) :
      SessionStep w d token .starting [.noted (.sessionOpened x.id)] (.idle false) false
  | ends {bound x} (hd : w.diagrams[d]? = some x)
      (ending : x.scope.isCancelled token = true ∨ x.inbox = [] ∧ x.sending = false) :
      SessionStep w d token (.idle bound) [] (.idle bound) true
  | readies {bound x rest} (hd : w.diagrams[d]? = some x) (inbox : x.inbox = .ready :: rest)
      (going : x.scope.isCancelled token = false) :
      SessionStep w d token (.idle bound) [.handled d (.ok ()), .taken d .ready] (.idle true) false
  | takes {bound x node rest new p} (hd : w.diagrams[d]? = some x)
      (inbox : x.inbox = .selected node :: rest) (going : x.scope.isCancelled token = false)
      (h : Handles w d node new p) :
      SessionStep w d token (.idle bound) (w.reports d p ++ (new ++ [.taken d (.selected node)]))
        (p.sessionPoint bound) false
  | goesOn {bound q new p} (due : q.due ≤ w.now) (h : Answers w q.await new p) :
      SessionStep w d token (.handling bound q) (w.reports d p ++ new) (p.sessionPoint bound) false

theorem SessionStep.mem {p q : SessionPoint} {new : List Event} {ended : Bool} {e : Event}
    (h : SessionStep w d token p new q ended) (he : e ∈ new) :
    e.isTelling = true ∨ (∃ event, e = .taken d event) ∨
      (∃ node events r, Handles w d node events r ∧ e ∈ events) ∨
      ∃ bound q events r, p = .handling bound q ∧ Answers w q.await events r ∧ e ∈ events := by
  cases h with
  | starts hd =>
    obtain rfl := List.mem_singleton.mp he
    exact .inl rfl
  | ends hd ending => cases he
  | readies hd inbox going =>
    rcases he with _ | ⟨_, _ | ⟨_, he⟩⟩
    · exact .inl rfl
    · exact .inr (.inl ⟨_, rfl⟩)
    · cases he
  | takes hd inbox going h =>
    rcases List.mem_append.mp he with he | he
    · exact .inl (isTelling_of_reports _ e he)
    rcases List.mem_append.mp he with he | he
    · exact .inr (.inr (.inl ⟨_, _, _, h, he⟩))
    · exact .inr (.inl ⟨_, List.mem_singleton.mp he⟩)
  | goesOn due h =>
    rcases List.mem_append.mp he with he | he
    · exact .inl (isTelling_of_reports _ e he)
    · exact .inr (.inr (.inr ⟨_, _, _, _, rfl, h, he⟩))

/-- Taking an event changes nothing that its handling looks at. -/
theorem Handles.of_taken {x : Diagram} {rest : List DiagramEvent} {e : DiagramEvent}
    {node : NodeSelection} {new : List Event} {p : Progress} (hd : w.diagrams[d]? = some x)
    (hu : (w.modifyDiagram d fun x => { x with inbox := rest }).record (.taken d e) = u)
    (h : Handles u d node new p) : Handles w d node new p := by
  have activated : u.isActivated d = w.isActivated d := by
    have same : u.diagrams[d]? = some { x with inbox := rest } := by
      simp [← hu, modifyDiagram, record, hd]
    have stores : u.stores = w.stores := by rw [← hu]; rfl
    have activation : u.activation? d = w.activation? d := by
      simp only [activation?, same, hd, stores, Option.bind_some]
    rw [isActivated, isActivated, activation]
  have pending (a : Await) : u.pending a = w.pending a := by rw [← hu]; rfl
  have settings : u.revealer = w.revealer := by rw [← hu]; rfl
  have visible : u.visible = w.visible := by rw [← hu]; rfl
  cases h with
  | ignores reason => exact .ignores (activated ▸ reason)
  | malformed link bad => exact .malformed link bad
  | follows link good => rw [pending, settings]; exact .follows link good
  | searches link tag => rw [pending, visible]; exact .searches link tag

theorem stepIdle_session {x : Diagram} {bound : Bool} (ht : w.runs t (.session d token (.idle bound)))
    (hd : w.diagrams[d]? = some x)
    (ready : x.scope.isCancelled token = true ∨ x.inbox ≠ [] ∨ x.sending = false) :
    ∃ new q ended, SessionStep w d token (.idle bound) new q ended ∧
      (w.stepIdle t d token bound).history = new.map (Entry.mk w.now) ++ w.history ∧
      (w.stepIdle t d token bound).tasks[t]? = some ⟨.session d token q, false, ended⟩ := by
  -- An idle session ends for one of two reasons, in the same way.
  have ended (ending : x.scope.isCancelled token = true ∨ x.inbox = [] ∧ x.sending = false) :
      ∃ new q ended, SessionStep w d token (.idle bound) new q ended ∧
        (w.endSession t d token).history = new.map (Entry.mk w.now) ++ w.history ∧
        (w.endSession t d token).tasks[t]? = some ⟨.session d token q, false, ended⟩ :=
    ⟨[], _, true, .ends hd ending, rfl, by simp [endSession, finish, modifyDiagram, ht]⟩
  simp only [stepIdle, hd]
  split
  · next cancelled => exact ended (.inl cancelled)
  · next going =>
    have going := Bool.eq_false_iff.mpr going
    split
    · next empty =>
      have ending : x.sending = false := by simpa [going, empty] using ready
      simp only [ending, Bool.false_eq_true, if_false]
      exact ended (.inr ⟨empty, ending⟩)
    · next e rest inbox =>
      cases e with
      | ready =>
        refine ⟨_, _, false, .readies hd inbox going, ?_⟩
        dsimp only
        split
        · next bound => exact ⟨rfl, by subst bound; exact ht⟩
        · have old : (w.tasks ++ [⟨.selectionMode d (x.scope.issue token).2 .starting, false,
              false⟩])[t]? = some ⟨.session d token (.idle bound), false, false⟩ :=
            (List.getElem?_append_left (List.getElem?_eq_some_iff.mp ht).1).trans ht
          exact ⟨rfl, runs_moveTo old⟩
      | selected node =>
        dsimp only
        -- `u` is the workspace once the event is off the queue.
        generalize hu : (w.modifyDiagram d fun x => { x with inbox := rest }).record
          (.taken d (.selected node)) = u
        obtain ⟨new, handles, records⟩ := handle_handles u d node
        have same : u.diagrams[d]? = some { x with inbox := rest } := by
          simp [← hu, modifyDiagram, record, hd]
        have runs : (u.handle d node).1.tasks[t]? = some ⟨.session d token (.idle bound), false, false⟩ :=
          records.task (by rw [← hu]; exact ht)
        have reports : (u.handle d node).1.reports d (u.handle d node).2 =
            w.reports d (u.handle d node).2 := by
          unfold Workspace.reports
          rw [records.diagrams, same, hd]
          rfl
        have now : u.now = w.now := by rw [← hu]; rfl
        have history : u.history = ⟨w.now, .taken d (.selected node)⟩ :: w.history := by
          rw [← hu]
          rfl
        refine ⟨_, _, false, .takes hd inbox going (.of_taken hd hu handles), ?_, ?_⟩
        · rw [continueSession_eq, reports, records.now, records.history, now, history]
          simp
        · rw [continueSession_eq]
          simp [runs]

theorem step_handling {bound : Bool} {q : Pending}
    (ht : w.runs t (.session d token (.handling bound q))) (ready : w.isReady t = true) :
    ∃ new, Answers w q.await new (w.answer q.await).2 ∧
      (w.step t).history =
        (w.reports d (w.answer q.await).2 ++ new).map (Entry.mk w.now) ++ w.history ∧
      (w.step t).tasks[t]? =
        some ⟨.session d token ((w.answer q.await).2.sessionPoint bound), false, false⟩ := by
  have step : w.step t = w.stepSession t d token (.handling bound q) := by
    simp [Workspace.step, ht, ready]
  obtain ⟨new, answers, records⟩ := answer_answers w q.await
  have reports : (w.answer q.await).1.reports d (w.answer q.await).2 =
      w.reports d (w.answer q.await).2 := by
    unfold Workspace.reports
    rw [records.diagrams]
  refine ⟨new, answers, ?_, ?_⟩
  · simp only [step, stepSession]
    rw [continueSession_eq, reports, records.now, records.history, List.map_append,
      List.append_assoc]
  · simp only [step, stepSession]
    rw [continueSession_eq]
    simp [records.task ht]

/-- A session that is ready takes one of the steps of sessions. -/
theorem Sound.step_session {p : SessionPoint} (hw : Sound w) (ht : w.runs t (.session d token p))
    (ready : w.isReady t = true) :
    ∃ new q ended, SessionStep w d token p new q ended ∧
      (w.step t).history = new.map (Entry.mk w.now) ++ w.history ∧
      (w.step t).tasks[t]? = some ⟨.session d token q, false, ended⟩ := by
  obtain ⟨-, valid⟩ := hw.roster.session t d token (spawned_of_task ht)
  have hd := List.getElem?_eq_getElem valid
  have step : w.step t = w.stepSession t d token p := by simp [Workspace.step, ht, ready]
  have can : w.canRun (.session d token p) = true := by
    simpa only [isReady, ht, Bool.not_false, Bool.true_and, Bool.false_or] using ready
  cases p with
  | starting =>
    rw [step]
    refine ⟨_, _, false, .starts hd, ?_, ?_⟩
    · simp [stepSession, hd, moveTo, note, record]
    · simp [stepSession, hd, moveTo, note, record, ht]
  | idle bound =>
    simp only [canRun, hd, Option.map_some, Option.getD_some, Bool.or_eq_true, Bool.not_eq_true',
      List.isEmpty_eq_false_iff] at can
    rw [step]
    exact stepIdle_session ht hd (or_assoc.mp can)
  | handling bound q =>
    obtain ⟨new, answers, history, task⟩ := step_handling ht ready
    exact ⟨_, _, false, .goesOn (of_decide_eq_true can) answers, history, task⟩

/-- What a step of a job does: where the job stood, the events that are recorded, the latest first, and
how it goes on. -/
inductive JobStep (w : Workspace) (r : Request) : JobPoint → List Event → Progress → Prop
  | starts {new p} (h : Starts w r new p) : JobStep w r .starting new p
  | goesOn {q new p} (due : q.due ≤ w.now) (h : Answers w q.await new p) :
      JobStep w r (.waiting q) new p

/-- A task is where it was, though it may have been aborted. -/
def Spares (w u : Workspace) (s : TaskNo) : Prop :=
  ∀ x, w.tasks[s]? = some x → ∃ aborted, u.tasks[s]? = some { x with aborted }

namespace Spares

theorem refl : Spares w w s := fun x hx => ⟨x.aborted, hx⟩

theorem trans (h : Spares w u s) (h' : Spares u v s) : Spares w v s := by
  intro x hx
  obtain ⟨aborted, hu⟩ := h x hx
  obtain ⟨aborted', hv⟩ := h' _ hu
  exact ⟨aborted', hv⟩

theorem of_tasks (h : u.tasks = w.tasks) : Spares w u s := fun x hx => ⟨x.aborted, h ▸ hx⟩

theorem of_modify {f : Task → Task} (ne : t ≠ s) (h : u.tasks = w.tasks.modify t f) :
    Spares w u s := by
  intro x hx
  refine ⟨x.aborted, ?_⟩
  rw [h, List.getElem?_modify_ne _ _ ne]
  exact hx

theorem of_append {born : List Task} (h : u.tasks = w.tasks ++ born) : Spares w u s := by
  intro x hx
  refine ⟨x.aborted, ?_⟩
  rw [h, List.getElem?_append_left (List.getElem?_eq_some_iff.mp hx).1]
  exact hx

theorem of_records {new : List Event} (h : Records w u new) : Spares w u s := by
  obtain ⟨born, hb, -⟩ := h.tasks
  exact of_append hb

theorem of_chain {authors : List Author} (h : Chain authors w u)
    (idle : ∀ a ∈ authors, a = .service ∨ ∀ b, a.owns b = false) : Spares w u s := by
  refine h.keeps (P := fun v => Spares w v s) refl ?_
  intro a ha v v' hv hc
  refine hv.trans fun x hx => ?_
  by_cases service : a = .service
  · subst service
    exact hc.service_task hx
  · rcases idle a ha with rfl | idle
    · exact absurd rfl service
    · exact ⟨x.aborted, hc.task_eq service hx (idle _)⟩

end Spares

/-- A step of a job that goes on from what it has recorded. -/
theorem Sound.step_goesOn {r : Request} {tag : Option String} {q : JobPoint} {new : List Event}
    (hw : Sound w) (ht : w.runs t (.job r tag q)) (p : Progress) (records : Records w u new)
    (he : w.step t = u.continueJob t r tag p) :
    (w.step t).history = (r.concludes tag p ++ new).map (Entry.mk w.now) ++ w.history ∧
      (w.step t).tasks[t]? = some ⟨.job r tag p.jobPoint, false, p.isOver⟩ := by
  have gone : (u.goOn t r tag p).tasks[t]? = some ⟨.job r tag p.jobPoint, false, p.isOver⟩ := by
    simp [goOn, records.task ht]
  have history : (w.step t).history = (r.concludes tag p).map (Entry.mk u.now) ++ u.history := by
    rw [he, continueJob_eq]
    split
    · exact retireIfUnused_history _
    · rfl
  have task : ∃ aborted,
      (w.step t).tasks[t]? = some ⟨.job r tag p.jobPoint, aborted, p.isOver⟩ := by
    rw [he, continueJob_eq]
    split
    · exact Spares.of_chain retireIfUnused_chain (by simp) _ gone
    · exact ⟨false, gone⟩
  obtain ⟨aborted, task⟩ := task
  -- Jobs are never aborted, whatever ends with them.
  obtain rfl : aborted = false := (hw.move (.step t)).not_aborted task rfl
  refine ⟨?_, task⟩
  rw [history, records.now, records.history, List.map_append, List.append_assoc]

/-- A job whose call is answered goes on from the answer. -/
theorem Sound.step_waiting {r : Request} {tag : Option String} {q : Pending} (hw : Sound w)
    (ht : w.runs t (.job r tag (.waiting q))) (ready : w.isReady t = true) :
    ∃ new, Answers w q.await new (w.answer q.await).2 ∧
      (w.step t).history =
        (r.concludes tag (w.answer q.await).2 ++ new).map (Entry.mk w.now) ++ w.history ∧
      (w.step t).tasks[t]? =
        some ⟨.job r tag (w.answer q.await).2.jobPoint, false, (w.answer q.await).2.isOver⟩ := by
  obtain ⟨new, answers, records⟩ := answer_answers w q.await
  exact ⟨new, answers, hw.step_goesOn ht _ records (step_of_job ht ready)⟩

theorem Sound.step_job {r : Request} {tag : Option String} {q : JobPoint} (hw : Sound w)
    (ht : w.runs t (.job r tag q)) (ready : w.isReady t = true) :
    ∃ new p, JobStep w r q new p ∧
      (w.step t).history = (r.concludes tag p ++ new).map (Entry.mk w.now) ++ w.history ∧
      (w.step t).tasks[t]? = some ⟨.job r tag p.jobPoint, false, p.isOver⟩ := by
  have can : w.canRun (.job r tag q) = true := by
    simpa only [isReady, ht, Bool.not_false, Bool.true_and, Bool.false_or] using ready
  cases q with
  | starting =>
    obtain ⟨new, starts, records⟩ := start_starts w r
    exact ⟨new, _, .starts starts, hw.step_goesOn ht _ records (step_of_job ht ready)⟩
  | waiting q =>
    obtain ⟨new, answers, history, task⟩ := hw.step_waiting ht ready
    exact ⟨new, _, .goesOn (of_decide_eq_true can) answers, history, task⟩
  | ended result => cases can

end DiagramLinks
