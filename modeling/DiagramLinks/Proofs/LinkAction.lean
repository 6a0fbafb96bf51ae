import DiagramLinks.Proofs.Neighbours
import DiagramLinks.Proofs.RevealSettings

namespace DiagramLinks

open Workspace

/-- The action that a request performs. -/
def Request.action? : Request → Option Action
  | .toggle => some .toggleActivation
  | .link => some .linkSelectedNode
  | r => r.shownAction?

/-- The first of some preconditions that is not met. -/
def firstUnmet? (checks : List (Precondition × Bool)) : Option Precondition :=
  (checks.find? fun check => !check.2).map Prod.fst

namespace Workspace

def hasSelectedNode (w : Workspace) (d : DiagramNo) : Bool :=
  (w.diagrams[d]?.map Diagram.hasNode).getD false

/-- The text editor that had the focus last, with its selection if it still has one. -/
def lastSelection? (w : Workspace) : Option Location :=
  w.service.focus.editor.bind fun (editor, uri) => (w.selections.lookup editor).map (Location.mk uri)

/-- The first precondition of those checked at the start that is not met. -/
def unmetAtStart? (w : Workspace) : Option Precondition :=
  firstUnmet? [(.featureEnabled, w.service.settings.experimental),
    (.activeDiagram, w.lastActiveDiagram?.isSome)]

/-- The first precondition of those checked when a diagram answers that is not met. -/
def unmetAtAnswer? (w : Workspace) (d : DiagramNo) : Option Precondition :=
  firstUnmet? [(.selectedNode, w.hasSelectedNode d), (.textEditor, w.lastSelection?.isSome),
    (.selection, w.lastSelection?.any fun l => l.range.start != l.range.stop)]

/-- The calls of a task in a run, the earliest first. -/
def callsBy (w : Workspace) (t : TaskNo) : List Move → List Call
  | [] => []
  | m :: more => seenIn Event.call? (w.recordedBy t m) ++ (w.move m).callsBy t more

end Workspace

def JobPoint.isEnded : JobPoint → Bool
  | .ended _ => true
  | _ => false

/-- A request and the task it runs as. -/
structure Job where
  task : TaskNo
  request : Request
  tag : Option String

namespace Job

def Performs (j : Job) (action : Action) : Prop :=
  j.request.action? = some action

def StandsAt (j : Job) (q : JobPoint) (w : Workspace) : Prop :=
  w.tasks[j.task]? = some ⟨.job j.request j.tag q, false, q.isEnded⟩

/-- After the first moves of a run, a request goes on from a point. -/
structure GoesOn (j : Job) (w : Workspace) (q : JobPoint) (before more : List Move) : Prop where
  within : before ++ [.step j.task] <+: more
  stands : j.StandsAt q (w.run before)
  ready : (w.run before).isReady j.task = true

/-- The action has asked a diagram whether a node is selected: it was the one that was active last. -/
inductive Asks (j : Job) (w : Workspace) (more : List Move) (d : DiagramNo) : Prop
  | intro {before} (goes : j.GoesOn w .starting before more) (met : (w.run before).unmetAtStart? = none)
      (last : (w.run before).lastActiveDiagram? = some d)

/-- The action has asked the diagram to attach a location: it was selected when the diagram had answered. -/
inductive Attaches (j : Job) (w : Workspace) (more : List Move) (d : DiagramNo) (l : Location) : Prop
  | intro {before due} (asks : j.Asks w before d)
      (goes : j.GoesOn w (.waiting ⟨.askingNode d, due⟩) before more)
      (answers : (w.run before).conduct.refuses .askSelectedNode = false)
      (met : (w.run before).unmetAtAnswer? d = none) (selected : (w.run before).lastSelection? = some l)

/-- The diagram has attached the location, and its reveal has begun. -/
inductive Attached (j : Job) (w : Workspace) (more : List Move) (d : DiagramNo) (l : Location) (s : Settings) :
    Prop
  | intro {before due} (attaches : j.Attaches w before d l)
      (goes : j.GoesOn w (.waiting ⟨.attaching d l, due⟩) before more)
      (succeeds : ⟨(w.run before).now, .carriedOut (.attachLink d (Link.ofLocation l).toJson)⟩ ∈
        (w.run before).recordedBy j.task (.step j.task))
      (settings : s = (w.run before).revealer.settings)

/-- The action finds that a precondition is not met, and the calls it has made by then. -/
inductive FindsUnmet (j : Job) (w : Workspace) (more : List Move) : Precondition → List Call → Prop
  | atStart {before p} (goes : j.GoesOn w .starting before more) (unmet : (w.run before).unmetAtStart? = some p) :
      FindsUnmet j w more p []
  | atAnswer {before d due p} (asks : j.Asks w before d)
      (goes : j.GoesOn w (.waiting ⟨.askingNode d, due⟩) before more)
      (answers : (w.run before).conduct.refuses .askSelectedNode = false)
      (unmet : (w.run before).unmetAtAnswer? d = some p) : FindsUnmet j w more p [.askSelectedNode d]

/-- The calls up to the one that attaches a location. -/
def linking (d : DiagramNo) (l : Location) : List Call :=
  [.askSelectedNode d, .attachLink d (Link.ofLocation l).toJson]

/-- Where the action stands after a run, and the calls it has made. -/
inductive LinkCourse (j : Job) (w : Workspace) (more : List Move) : JobPoint → List Call → Prop
  | starting : LinkCourse j w more .starting []
  | unmet {p calls} (finds : j.FindsUnmet w more p calls) :
      LinkCourse j w more (.ended (.error (.unmet p))) calls
  | asks {d due} (asks : j.Asks w more d) :
      LinkCourse j w more (.waiting ⟨.askingNode d, due⟩) [.askSelectedNode d]
  /-- The diagram does not answer. -/
  | unanswered {before d due} (asks : j.Asks w before d)
      (goes : j.GoesOn w (.waiting ⟨.askingNode d, due⟩) before more)
      (refuses : (w.run before).conduct.refuses .askSelectedNode = true) :
      LinkCourse j w more (.ended (.error (.host (.refused .askSelectedNode)))) [.askSelectedNode d]
  | attaches {d l due} (attaches : j.Attaches w more d l) :
      LinkCourse j w more (.waiting ⟨.attaching d l, due⟩) (linking d l)
  | notAttached {before d l due h} (attaches : j.Attaches w before d l)
      (goes : j.GoesOn w (.waiting ⟨.attaching d l, due⟩) before more)
      (fails : ((w.run before).answer (.attaching d l)).2 = .over (.error (.host h))) :
      LinkCourse j w more (.ended (.error (.host h))) (linking d l)
  | reveals {d l s a due calls} (attached : j.Attached w more d l s)
      (reached : Reveal.Reached ⟨j.task, s, l⟩ a calls) :
      LinkCourse j w more (.waiting ⟨a, due⟩) (linking d l ++ calls)
  | notRevealed {before d l s a due calls h} (attached : j.Attached w before d l s)
      (reached : Reveal.Reached ⟨j.task, s, l⟩ a calls) (goes : j.GoesOn w (.waiting ⟨a, due⟩) before more)
      (fails : ((w.run before).answer a).2 = .over (.error (.host h))) :
      LinkCourse j w more (.ended (.error (.host h))) (linking d l ++ calls)
  | revealed {before d l s due} (attached : j.Attached w before d l s)
      (goes : j.GoesOn w (.waiting ⟨.showing s l, due⟩) before more) :
      LinkCourse j w more (.ended (.ok ())) (linking d l ++ Reveal.script ⟨j.task, s, l⟩
        ((w.run before).nextHighlight s l) (w.run before).revealer.active)

end Job

/-- The service, stores, settings and highlights stay as they are. -/
structure LeavesAlone (w u : Workspace) : Prop where
  focus : u.service.focus = w.service.focus
  /-- The registry goes only with the service, which ends with its last action once nobody holds it. -/
  registry : u.service.registry = w.service.registry ∨
    w.service.held = false ∧ u.service.active.live = false
  stores : u.stores = w.stores
  settings : SameSettings w u
  highlights : SameHighlights w u

def Call.isLink : Call → Bool
  | .attachLink _ _ => true
  | _ => false

/-- Whether a call is one of those that reveal a location. -/
def Call.reveals : Call → Bool
  | .openDocument _ => true
  | .showDocument _ _ _ => true
  | .revealRange _ _ => true
  | .createDecoration _ _ => true
  | .paint _ _ _ => true
  | _ => false

/-- What holds of an action that links from the moment in which it is about to start. -/
structure Job.LinksInOrder (j : Job) (w : Workspace) : Prop where
  /-- Whatever others do meanwhile, it follows one course. -/
  course : ∀ more, ∃ q, j.StandsAt q (w.run more) ∧ j.LinkCourse w more q (w.callsBy j.task more)
  /-- It reports a precondition just when that is the first one that is not met. -/
  reports : ∀ more p, j.StandsAt (.ended (.error (.unmet p))) (w.run more) ↔
    ∃ calls, j.FindsUnmet w more p calls
  /-- With a precondition that is not met, no host was called but the diagram that was asked for its node, -/
  refrains : ∀ more p, j.StandsAt (.ended (.error (.unmet p))) (w.run more) →
    ∀ c ∈ w.callsBy j.task more, ∃ d, c = .askSelectedNode d
  /-- and nothing has changed. -/
  untouched : ∀ more, ¬j.StandsAt (.ended (.ok ())) (w.run more) →
    ∀ before, before ++ [.step j.task] <+: more → LeavesAlone (w.run before) ((w.run before).step j.task)
  /-- Otherwise, unless the diagram does not answer, a link is attached once. -/
  links : ∀ more result, j.StandsAt (.ended result) (w.run more) → (∀ p, result ≠ .error (.unmet p)) →
    result ≠ .error (.host (.refused .askSelectedNode)) → ∃ d l, j.Attaches w more d l ∧
      (w.callsBy j.task more).filter Call.isLink = [.attachLink d (Link.ofLocation l).toJson]
  /-- Nothing is revealed but what has been attached. -/
  reveals : ∀ more, ∀ c ∈ w.callsBy j.task more, c.reveals = true → ∃ d l s new previous,
    j.Attached w more d l s ∧ w.callsBy j.task more <+: linking d l ++ Reveal.script ⟨j.task, s, l⟩ new previous
  /-- It succeeds when the reveal is through, -/
  succeeds : ∀ more, j.StandsAt (.ended (.ok ())) (w.run more) → ∃ d l s new previous,
    j.Attached w more d l s ∧ w.callsBy j.task more = linking d l ++ Reveal.script ⟨j.task, s, l⟩ new previous
  /-- and it has no other failure than that of a host. -/
  fails : ∀ more problem, j.StandsAt (.ended (.error problem)) (w.run more) → (∃ p, problem = .unmet p) ∨
    ∃ before a due, j.GoesOn w (.waiting ⟨a, due⟩) before more ∧
      ((w.run before).answer a).2 = .over (.error problem)

variable {w u v : Workspace} {t : TaskNo} {d : DiagramNo} {m : Move} {a : Await} {r : Request} {tag : Option String}
  {q : JobPoint} {l : Location} {s : Settings} {p : Precondition} {before after more : List Move} {calls : List Call}

theorem start_performs {action : Action} (h : r.action? = some action) (w : Workspace) :
    w.start r = w.perform action := by
  cases r with
  | command id =>
    have known : Action.ofCommandId? id = some action := h
    simp [start, known]
  | toggle => cases h; rfl
  | link => cases h; rfl
  | execute action => cases h; rfl
  | _ => cases h

theorem selectedLocation_eq (w : Workspace) : w.selectedLocation =
    match w.lastSelection? with
    | none => .error (.unmet .textEditor)
    | some l => if l.range.start = l.range.stop then .error (.unmet .selection) else .ok l := by
  unfold selectedLocation lastSelection?
  cases w.service.focus.editor with
  | none => rfl
  | some e =>
    cases h : w.selections.lookup e.1 with
    | none => simp [h]
    | some range => simp [h, Range.isEmpty]

/-- The action starts, or reports what is not met. -/
theorem link_cases (w : Workspace) :
    (∃ p, w.unmetAtStart? = some p ∧ w.link = (w, .over (.error (.unmet p)))) ∨
      w.unmetAtStart? = none ∧ ∃ d, w.lastActiveDiagram? = some d ∧ w.link = w.ask (.askingNode d) := by
  unfold link unmetAtStart? firstUnmet?
  cases w.service.settings.experimental with
  | false => exact .inl ⟨.featureEnabled, rfl, rfl⟩
  | true =>
    cases w.lastActiveDiagram? with
    | none => exact .inl ⟨.activeDiagram, rfl, rfl⟩
    | some d => exact .inr ⟨rfl, d, rfl, rfl⟩

theorem answerNode_cases (w : Workspace) (d : DiagramNo) :
    (∃ p, w.unmetAtAnswer? d = some p ∧ w.answerNode d = (w, .over (.error (.unmet p)))) ∨
      w.unmetAtAnswer? d = none ∧ ∃ l, w.lastSelection? = some l ∧ w.answerNode d = w.ask (.attaching d l) := by
  unfold answerNode unmetAtAnswer? firstUnmet?
  rw [selectedLocation_eq]
  show (∃ p, _ ∧ (if w.hasSelectedNode d = true then _ else _) = _) ∨ _ ∧ ∃ l, _ ∧
    (if w.hasSelectedNode d = true then _ else _) = _
  cases w.hasSelectedNode d with
  | false => exact .inl ⟨.selectedNode, rfl, rfl⟩
  | true =>
    cases w.lastSelection? with
    | none => exact .inl ⟨.textEditor, rfl, rfl⟩
    | some l =>
      by_cases empty : l.range.start = l.range.stop
      · exact .inl ⟨.selection, by simp [empty], by simp [empty]⟩
      · exact .inr ⟨by simp [empty], l, rfl, by simp [empty, linkLocation]⟩

theorem answer_askingNode (answers : w.conduct.refuses .askSelectedNode = false) :
    w.answer (.askingNode d) = w.answerNode d := by
  simp [answer, Await.operation, answers]

theorem answer_unanswered (refuses : w.conduct.refuses .askSelectedNode = true) :
    w.answer (.askingNode d) = (w, .over (.error (.host (.refused .askSelectedNode)))) := by
  simp [answer, Await.operation, refuses, fail]

/-- A diagram fails to attach a location, or the location is revealed. -/
theorem answer_attaching (w : Workspace) (d : DiagramNo) (l : Location) :
    (∃ h, w.answer (.attaching d l) = (w, .over (.error (.host h)))) ∨
      ∃ id, w.answer (.attaching d l) =
        ((w.record (.carriedOut (Await.attaching d l).call)).note (.linked l id)).reveal l := by
  unfold answer
  split
  · exact .inl ⟨_, rfl⟩
  · dsimp only
    unfold answerLink
    split
    · exact .inl ⟨_, rfl⟩
    · next x hx =>
      split
      · exact .inr ⟨x.id, rfl⟩
      · exact .inl ⟨_, rfl⟩

theorem answer_opening (w : Workspace) (s : Settings) (l : Location) :
    (∃ h, w.answer (.opening s l) = (w, .over (.error (.host h)))) ∨
      w.answer (.opening s l) = (w.record (.carriedOut (Await.opening s l).call)).ask (.showing s l) := by
  unfold answer
  split
  · exact .inl ⟨_, rfl⟩
  · dsimp only
    split
    · exact .inl ⟨_, rfl⟩
    · exact .inr rfl

theorem answer_showing_cases (w : Workspace) (s : Settings) (l : Location) :
    (∃ h, w.answer (.showing s l) = (w, .over (.error (.host h)))) ∨
      w.answer (.showing s l) = ((w.record (.carriedOut (Await.showing s l).call)).highlight s l, .over (.ok ())) := by
  unfold answer
  split
  · exact .inl ⟨_, rfl⟩
  · exact .inr rfl

theorem Progress.isEnded_jobPoint (p : Progress) : p.jobPoint.isEnded = p.isOver := by
  cases p <;> rfl

namespace Job

variable {j : Job} {q' : JobPoint}

/-- A step of an action that links: where it stood, the calls it makes, and how it goes on. -/
inductive LinkStep (j : Job) (w : Workspace) : JobPoint → List Call → Progress → Prop
  | stops {p : Precondition} (unmet : w.unmetAtStart? = some p) :
      LinkStep j w .starting [] (.over (.error (.unmet p)))
  | asks {d : DiagramNo} {due} (met : w.unmetAtStart? = none) (last : w.lastActiveDiagram? = some d) :
      LinkStep j w .starting [.askSelectedNode d] (.waiting ⟨.askingNode d, due⟩)
  | unanswered {d : DiagramNo} {due} (refuses : w.conduct.refuses .askSelectedNode = true) :
      LinkStep j w (.waiting ⟨.askingNode d, due⟩) [] (.over (.error (.host (.refused .askSelectedNode))))
  | refrains {d : DiagramNo} {due} {p : Precondition} (answers : w.conduct.refuses .askSelectedNode = false)
      (unmet : w.unmetAtAnswer? d = some p) :
      LinkStep j w (.waiting ⟨.askingNode d, due⟩) [] (.over (.error (.unmet p)))
  | attaches {d : DiagramNo} {l : Location} {due due'} (answers : w.conduct.refuses .askSelectedNode = false)
      (met : w.unmetAtAnswer? d = none) (selected : w.lastSelection? = some l) :
      LinkStep j w (.waiting ⟨.askingNode d, due⟩) [.attachLink d (Link.ofLocation l).toJson]
        (.waiting ⟨.attaching d l, due'⟩)
  | fails {a : Await} {due h} (other : ∀ d, a ≠ .askingNode d) (fails : (w.answer a).2 = .over (.error (.host h))) :
      LinkStep j w (.waiting ⟨a, due⟩) [] (.over (.error (.host h)))
  | attached {d : DiagramNo} {l : Location} {due due'}
      (succeeds : ⟨w.now, .carriedOut (.attachLink d (Link.ofLocation l).toJson)⟩ ∈
        w.recordedBy j.task (.step j.task)) :
      LinkStep j w (.waiting ⟨.attaching d l, due⟩) [.openDocument l.uri]
        (.waiting ⟨.opening w.revealer.settings l, due'⟩)
  | opened {s : Settings} {l : Location} {due due'} :
      LinkStep j w (.waiting ⟨.opening s l, due⟩) [.showDocument l.uri s.column true]
        (.waiting ⟨.showing s l, due'⟩)
  | shown {s : Settings} {l : Location} {due} :
      LinkStep j w (.waiting ⟨.showing s l, due⟩)
        (Reveal.painting ⟨j.task, s, l⟩ (w.nextHighlight s l) w.revealer.active) (.over (.ok ()))

/-- A request takes a step that links. -/
def LinksOn (j : Job) (w : Workspace) (q : JobPoint) : Prop :=
  ∃ calls p, j.LinkStep w q calls p ∧ j.StandsAt p.jobPoint (w.step j.task) ∧
    seenIn Event.call? (w.recordedBy j.task (.step j.task)) = calls

theorem StandsAt.going (stands : j.StandsAt q w) (ready : w.isReady j.task = true) : q.isEnded = false := by
  cases ended : q.isEnded with
  | false => rfl
  | true => simp [isReady, show w.tasks[j.task]? = _ from stands, ended] at ready

theorem StandsAt.runs (stands : j.StandsAt q w) (ready : w.isReady j.task = true) :
    w.runs j.task (.job j.request j.tag q) := by
  have going := stands.going ready
  rw [StandsAt, going] at stands
  exact stands

theorem StandsAt.unique (stands : j.StandsAt q w) (stands' : j.StandsAt q' w) : q = q' := by
  have same := Option.some.inj (stands.symm.trans stands')
  simp only [Task.mk.injEq, Activity.job.injEq, true_and] at same
  exact same.1

/-- A request goes on from what it has recorded. -/
theorem StandsAt.step {new : List Event} (stands : j.StandsAt q w) (ready : w.isReady j.task = true) (hw : Sound w)
    (p : Progress) (records : Records w u new)
    (goes : w.stepJob j.task j.request j.tag q = u.continueJob j.task j.request j.tag p) :
    j.StandsAt p.jobPoint (w.step j.task) ∧
      seenIn Event.call? (w.recordedBy j.task (.step j.task)) = (new.filterMap Event.call?).reverse ∧
      ∀ e ∈ new, ⟨w.now, e⟩ ∈ w.recordedBy j.task (.step j.task) := by
  have ht := stands.runs ready
  obtain ⟨history, task⟩ := hw.step_goesOn ht p records ((step_of_job ht ready).trans goes)
  have told : (j.request.concludes j.tag p).filterMap Event.call? = [] :=
    List.filterMap_eq_nil_iff.mpr fun e he => call?_of_isTelling (isTelling_of_concludes _ _ _ e he)
  rw [Reveal.recordedBy_step history]
  refine ⟨?_, ?_, fun e he => List.mem_map_of_mem (List.mem_append_right _ he)⟩
  · rw [StandsAt, task, p.isEnded_jobPoint]
  · rw [seenIn_map, List.filterMap_append, told, List.nil_append]

theorem StandsAt.link_starts (stands : j.StandsAt .starting w) (ready : w.isReady j.task = true) (hw : Sound w)
    (links : j.Performs .linkSelectedNode) : j.LinksOn w .starting := by
  rcases link_cases w with ⟨p, unmet, link⟩ | ⟨met, d, last, link⟩
  · obtain ⟨next, made, -⟩ := stands.step ready hw (.over (.error (.unmet p))) (.nil w)
      (by rw [stepJob, start_performs links, perform, link])
    exact ⟨_, _, .stops unmet, next, made⟩
  · obtain ⟨next, made, -⟩ := stands.step ready hw _ (.ask w _)
      (by rw [stepJob, start_performs links, perform, link])
    exact ⟨_, _, .asks met last, next, made⟩

theorem StandsAt.answered {due : Nat} {new : List Event} {p : Progress} (stands : j.StandsAt (.waiting ⟨a, due⟩) w)
    (ready : w.isReady j.task = true) (hw : Sound w) (answer : w.answer a = (u, p)) (records : Records w u new) :
    j.StandsAt p.jobPoint (w.step j.task) ∧
      seenIn Event.call? (w.recordedBy j.task (.step j.task)) = (new.filterMap Event.call?).reverse ∧
      ∀ e ∈ new, ⟨w.now, e⟩ ∈ w.recordedBy j.task (.step j.task) :=
  stands.step ready hw p records (by rw [stepJob, answer])

theorem StandsAt.link_asked {due : Nat} (stands : j.StandsAt (.waiting ⟨.askingNode d, due⟩) w)
    (ready : w.isReady j.task = true) (hw : Sound w) : j.LinksOn w (.waiting ⟨.askingNode d, due⟩) := by
  cases answers : w.conduct.refuses .askSelectedNode with
  | true =>
    obtain ⟨next, made, -⟩ := stands.answered ready hw (answer_unanswered answers) (.nil w)
    exact ⟨_, _, .unanswered answers, next, made⟩
  | false =>
    have answer := answer_askingNode (d := d) answers
    rcases answerNode_cases w d with ⟨p, unmet, node⟩ | ⟨met, l, selected, node⟩
    · obtain ⟨next, made, -⟩ := stands.answered ready hw (answer.trans node) (.nil w)
      exact ⟨_, _, .refrains answers unmet, next, made⟩
    · obtain ⟨next, made, -⟩ := stands.answered ready hw (answer.trans node) (.ask w _)
      exact ⟨_, _, .attaches answers met selected, next, made⟩

theorem StandsAt.link_fails {due : Nat} {h : HostFailure} (stands : j.StandsAt (.waiting ⟨a, due⟩) w)
    (ready : w.isReady j.task = true) (hw : Sound w) (other : ∀ d, a ≠ .askingNode d)
    (answer : w.answer a = (w, .over (.error (.host h)))) : j.LinksOn w (.waiting ⟨a, due⟩) := by
  obtain ⟨next, made, -⟩ := stands.answered ready hw answer (.nil w)
  exact ⟨_, _, .fails other (by rw [answer]), next, made⟩

theorem StandsAt.link_attached {due : Nat} (stands : j.StandsAt (.waiting ⟨.attaching d l, due⟩) w)
    (ready : w.isReady j.task = true) (hw : Sound w) : j.LinksOn w (.waiting ⟨.attaching d l, due⟩) := by
  rcases answer_attaching w d l with ⟨h, answer⟩ | ⟨id, answer⟩
  · exact stands.link_fails ready hw nofun answer
  · obtain ⟨next, made, recorded⟩ := stands.answered ready hw answer
      (((Records.record w _).trans (.record _ _)).trans (.ask _ _))
    exact ⟨_, _, .attached (recorded _ (by simp [Await.call])), next, made⟩

theorem StandsAt.link_opened {due : Nat} (stands : j.StandsAt (.waiting ⟨.opening s l, due⟩) w)
    (ready : w.isReady j.task = true) (hw : Sound w) : j.LinksOn w (.waiting ⟨.opening s l, due⟩) := by
  rcases answer_opening w s l with ⟨h, answer⟩ | answer
  · exact stands.link_fails ready hw nofun answer
  · obtain ⟨next, made, -⟩ := stands.answered ready hw answer ((Records.record w _).trans (.ask _ _))
    exact ⟨_, _, .opened, next, made⟩

theorem StandsAt.link_shown {due : Nat} (stands : j.StandsAt (.waiting ⟨.showing s l, due⟩) w)
    (ready : w.isReady j.task = true) (hw : Sound w) : j.LinksOn w (.waiting ⟨.showing s l, due⟩) := by
  rcases answer_showing_cases w s l with ⟨h, answer⟩ | answer
  · exact stands.link_fails ready hw nofun answer
  · obtain ⟨next, made, -⟩ := stands.answered ready hw answer ((Records.record w _).trans (.highlight _ s l))
    rw [List.filterMap_append, List.reverse_append] at made
    exact ⟨_, _, .shown, next, made.trans (Reveal.calls_highlightEvents (r := ⟨j.task, s, l⟩))⟩

theorem GoesOn.mono {q : JobPoint} (h : j.GoesOn w q before more) (later : more <+: after) :
    j.GoesOn w q before after :=
  ⟨h.within.trans later, h.stands, h.ready⟩

theorem Asks.mono (h : j.Asks w more d) (later : more <+: after) : j.Asks w after d := by
  obtain ⟨goes, met, last⟩ := h
  exact ⟨goes.mono later, met, last⟩

theorem Attaches.mono (h : j.Attaches w more d l) (later : more <+: after) : j.Attaches w after d l := by
  obtain ⟨asks, goes, answers, met, selected⟩ := h
  exact ⟨asks, goes.mono later, answers, met, selected⟩

theorem Attached.mono (h : j.Attached w more d l s) (later : more <+: after) : j.Attached w after d l s := by
  obtain ⟨attaches, goes, succeeds, settings⟩ := h
  exact ⟨attaches, goes.mono later, succeeds, settings⟩

theorem FindsUnmet.mono (h : j.FindsUnmet w more p calls) (later : more <+: after) :
    j.FindsUnmet w after p calls := by
  cases h with
  | atStart goes unmet => exact .atStart (goes.mono later) unmet
  | atAnswer asks goes answers unmet => exact .atAnswer asks (goes.mono later) answers unmet

/-- While the action stands still, its course goes on. -/
theorem LinkCourse.mono (h : j.LinkCourse w more q calls) (later : more <+: after) :
    j.LinkCourse w after q calls := by
  cases h with
  | starting => exact .starting
  | unmet finds => exact .unmet (finds.mono later)
  | asks asks => exact .asks (asks.mono later)
  | unanswered asks goes refuses => exact .unanswered asks (goes.mono later) refuses
  | attaches attaches => exact .attaches (attaches.mono later)
  | notAttached attaches goes fails => exact .notAttached attaches (goes.mono later) fails
  | reveals attached reached => exact .reveals (attached.mono later) reached
  | notRevealed attached reached goes fails => exact .notRevealed attached reached (goes.mono later) fails
  | revealed attached goes => exact .revealed attached (goes.mono later)

/-- From every point of its course the action can take a step. -/
theorem LinkCourse.linksOn (h : j.LinkCourse w more q calls) (stands : j.StandsAt q u)
    (ready : u.isReady j.task = true) (hu : Sound u) (links : j.Performs .linkSelectedNode) : j.LinksOn u q := by
  cases h with
  | starting => exact stands.link_starts ready hu links
  | asks asks => exact stands.link_asked ready hu
  | attaches attaches => exact stands.link_attached ready hu
  | reveals attached reached =>
    cases reached with
    | opening => exact stands.link_opened ready hu
    | showing => exact stands.link_shown ready hu
  | _ => cases stands.going ready

/-- A step of the action takes it along its course. -/
theorem LinkCourse.step {new : List Call} {p : Progress} (h : j.LinkCourse w more q calls)
    (goes : j.GoesOn w q more (more ++ [.step j.task])) (step : j.LinkStep (w.run more) q new p) :
    j.LinkCourse w (more ++ [.step j.task]) p.jobPoint (calls ++ new) := by
  cases h with
  | starting =>
    cases step with
    | stops unmet => exact .unmet (.atStart goes unmet)
    | asks met last => exact .asks ⟨goes, met, last⟩
  | asks asks =>
    cases step with
    | unanswered refuses => exact .unanswered asks goes refuses
    | refrains answers unmet => exact .unmet (.atAnswer asks goes answers unmet)
    | attaches answers met selected => exact .attaches ⟨asks, goes, answers, met, selected⟩
    | fails other fails => exact absurd rfl (other _)
  | attaches attaches =>
    cases step with
    | fails other fails => exact .notAttached attaches goes fails
    | attached succeeds => exact .reveals ⟨attaches, goes, succeeds, rfl⟩ .opening
  | reveals attached reached =>
    cases reached with
    | opening =>
      cases step with
      | fails other fails => exact .notRevealed attached .opening goes fails
      | opened => exact .reveals (attached.mono (List.prefix_append _ _)) .showing
    | showing =>
      cases step with
      | fails other fails => exact .notRevealed attached .showing goes fails
      | shown => exact .revealed attached goes
  | _ => cases step

theorem callsBy_concat (w : Workspace) (t : TaskNo) (more : List Move) (m : Move) :
    w.callsBy t (more ++ [m]) = w.callsBy t more ++ seenIn Event.call? ((w.run more).recordedBy t m) := by
  induction more generalizing w with
  | nil => exact (List.append_nil _).trans (List.nil_append _).symm
  | cons first more ih =>
    rw [List.cons_append, callsBy, ih, callsBy, List.append_assoc]
    rfl

/-- A move is a step of the request, or the request stands still. -/
theorem StandsAt.move_cases (stands : j.StandsAt q w) (hw : Sound w) (m : Move) :
    (m = .step j.task ∧ w.isReady j.task = true) ∨
      j.StandsAt q (w.move m) ∧ w.recordedBy j.task m = [] ∧ (m = .step j.task → w.isReady j.task = false) := by
  by_cases own : m = .step j.task
  · subst own
    cases ready : w.isReady j.task with
    | true => exact .inl ⟨rfl, rfl⟩
    | false =>
      -- Its turn has come before its host has answered.
      have same : w.move (.step j.task) = w := step_of_unready ready
      exact .inr ⟨same.symm ▸ stands, Reveal.recordedBy_step (by rw [step_of_unready ready]; rfl), fun _ => rfl⟩
  · exact .inr ⟨hw.move_task stands rfl own, Reveal.recordedBy_other own, fun same => absurd same own⟩

/-- What holds when a request is about to start, lasts while it stands still, and is kept by its steps, holds all
along a run. -/
theorem StandsAt.along {P : List Move → JobPoint → List Call → Prop} (stands : j.StandsAt .starting w)
    (hw : Sound w) (first : P [] .starting [])
    (still : ∀ {more q calls} (m : Move), P more q calls → P (more ++ [m]) q calls)
    (goes : ∀ {more q calls}, P more q calls → j.GoesOn w q more (more ++ [.step j.task]) →
      ∃ (p : Progress) (new : List Call), j.StandsAt p.jobPoint ((w.run more).step j.task) ∧
        seenIn Event.call? ((w.run more).recordedBy j.task (.step j.task)) = new ∧
        P (more ++ [.step j.task]) p.jobPoint (calls ++ new))
    (more : List Move) : ∃ q, j.StandsAt q (w.run more) ∧ P more q (w.callsBy j.task more) := by
  induction more using List.reverseRecOn with
  | nil => exact ⟨.starting, stands, first⟩
  | append_singleton more m ih =>
    obtain ⟨q, stands, holds⟩ := ih
    rw [run_concat, callsBy_concat]
    rcases stands.move_cases (hw.run more) m with ⟨rfl, ready⟩ | ⟨stays, nothing, -⟩
    · obtain ⟨p, new, next, rfl, holds⟩ := goes holds ⟨List.prefix_rfl, stands, ready⟩
      exact ⟨_, next, holds⟩
    · rw [nothing]
      exact ⟨q, stays, (List.append_nil _).symm ▸ still m holds⟩

/-- Wherever a run leads, the action is on its course. -/
theorem StandsAt.course (stands : j.StandsAt .starting w) (hw : Sound w) (links : j.Performs .linkSelectedNode)
    (more : List Move) : ∃ q, j.StandsAt q (w.run more) ∧ j.LinkCourse w more q (w.callsBy j.task more) := by
  refine stands.along hw .starting (fun m course => course.mono (List.prefix_append _ _)) ?_ more
  intro more q calls course goes
  obtain ⟨new, p, step, next, made⟩ := course.linksOn goes.stands goes.ready (hw.run more) links
  exact ⟨p, new, next, made, course.step goes step⟩

theorem StandsAt.ended {result : Except Problem Unit} (stands : j.StandsAt (.ended result) w) (hw : Sound w)
    (more : List Move) : j.StandsAt (.ended result) (w.run more) :=
  hw.job_ended stands more

/-- What the action finds that is not met, it reports. -/
theorem FindsUnmet.reports (h : j.FindsUnmet w more p calls) (hw : Sound w) (links : j.Performs .linkSelectedNode) :
    j.StandsAt (.ended (.error (.unmet p))) (w.run more) := by
  have later {before : List Move} (within : before ++ [.step j.task] <+: more)
      (stops : j.StandsAt (.ended (.error (.unmet p))) ((w.run before).step j.task)) :
      j.StandsAt (.ended (.error (.unmet p))) (w.run more) := by
    obtain ⟨rest, rfl⟩ := within
    rw [run_append, run_concat]
    exact stops.ended ((hw.run before).move (.step j.task)) rest
  cases h with
  | atStart goes unmet =>
    obtain ⟨new, p', step, next, -⟩ := goes.stands.link_starts goes.ready (hw.run _) links
    cases step with
    | stops unmet' =>
      obtain rfl := Option.some.inj (unmet.symm.trans unmet')
      exact later goes.within next
    | asks met last => cases unmet.symm.trans met
  | atAnswer asks goes answers unmet =>
    obtain ⟨new, p', step, next, -⟩ := goes.stands.link_asked goes.ready (hw.run _)
    cases step with
    | unanswered refuses => cases answers.symm.trans refuses
    | refrains answers' unmet' =>
      obtain rfl := Option.some.inj (unmet.symm.trans unmet')
      exact later goes.within next
    | attaches answers' met selected => cases unmet.symm.trans met
    | fails other fails => exact absurd rfl (other _)

end Job

/-- Focus and stores stay as they are, and the registry is gone only with the service. -/
structure LeavesService (w u : Workspace) : Prop where
  focus : u.service.focus = w.service.focus
  stores : u.stores = w.stores
  registry : u.service.registry = w.service.registry ∨ w.service.held = false ∧ u.service.active.live = false

theorem LeavesService.of_eq (h : LeavesService u v) (service : u.service = w.service) (stores : u.stores = w.stores) :
    LeavesService w v :=
  ⟨service ▸ h.focus, stores ▸ h.stores, service ▸ h.registry⟩

theorem retireIfUnused_leaves (w : Workspace) : LeavesService w w.retireIfUnused := by
  unfold retireIfUnused
  split
  · exact ⟨rfl, rfl, .inl rfl⟩
  · next unused =>
    obtain ⟨diagrams, tasks, he⟩ := retire_eq w
    rw [he]
    exact ⟨rfl, rfl, .inr ⟨by simp_all, rfl⟩⟩

theorem continueJob_leaves (w : Workspace) (t : TaskNo) (r : Request) (tag : Option String) (p : Progress) :
    LeavesService w (w.continueJob t r tag p) := by
  rw [continueJob_eq]
  split
  · exact (retireIfUnused_leaves (w.goOn t r tag p)).of_eq rfl rfl
  · exact ⟨rfl, rfl, .inl rfl⟩

theorem answer_stores_of_failed (failed : (w.answer a).2 ≠ .over (.ok ())) : (w.answer a).1.stores = w.stores := by
  by_cases storing : ∃ e activated, a = .storing e activated
  · obtain ⟨e, activated, rfl⟩ := storing
    simp only [answer, answerStore] at failed ⊢
    repeat' split
    all_goals first | rfl | simp_all
  · exact answer_stores fun e activated same => storing ⟨e, activated, same⟩

theorem Answers.kind_of_failed {new : List Event} {progress : Progress} (h : Answers w a new progress)
    (failed : progress ≠ .over (.ok ())) : ∀ e ∈ new, e.kind ≠ .decoration := by
  intro e he
  cases h with
  | shows s l => exact absurd rfl failed
  | attaches hd =>
    simp only [List.mem_cons, List.not_mem_nil, or_false] at he
    rcases he with rfl | rfl | rfl <;> simp [Event.kind, Await.call]
  | finds best => rcases List.mem_pair.mp he with rfl | rfl <;> simp [Event.kind, Await.call]
  | opens s l => rcases List.mem_pair.mp he with rfl | rfl <;> simp [Event.kind, Await.call]
  | _ => simp_all [Event.kind, Await.call]

theorem JobStep.kind_of_failed {new : List Event} {progress : Progress} (h : JobStep w r q new progress)
    (failed : progress ≠ .over (.ok ())) : ∀ e ∈ new, e.kind ≠ .decoration := by
  cases h with
  | goesOn due h => exact h.kind_of_failed failed
  | starts h =>
    intro e he
    cases h with
    | handles h => cases h <;> simp_all [Event.kind, Await.call]
    | flips hd => rcases List.mem_pair.mp he with rfl | rfl <;> simp [Event.kind, Await.call]
    | _ => simp_all [Event.kind, Await.call]

namespace Job

variable {j : Job}

/-- A step with which a request does not end well leaves focus, stores and registry alone. -/
theorem StandsAt.leaves (stands : j.StandsAt q w) (ready : w.isReady j.task = true) (hw : Sound w)
    (failed : ¬j.StandsAt (.ended (.ok ())) (w.step j.task)) : LeavesService w (w.step j.task) := by
  rw [step_of_job (stands.runs ready) ready]
  cases q with
  | starting =>
    obtain ⟨new, -, records⟩ := start_starts w j.request
    exact (continueJob_leaves _ _ _ _ _).of_eq records.service (start_stores w j.request)
  | waiting pending =>
    obtain ⟨new, -, records⟩ := answer_answers w pending.await
    have other : (w.answer pending.await).2 ≠ .over (.ok ()) := by
      intro ok
      obtain ⟨next, -, -⟩ := stands.step ready hw (w.answer pending.await).2 records rfl
      rw [ok] at next
      exact failed next
    exact (continueJob_leaves _ _ _ _ _).of_eq records.service (answer_stores_of_failed other)
  | ended result => cases stands.going ready

/-- A step with which a request does not end well changes nothing that others see. -/
theorem StandsAt.leavesAlone (stands : j.StandsAt q w) (hw : Sound w)
    (failed : ¬j.StandsAt (.ended (.ok ())) (w.step j.task)) : LeavesAlone w (w.step j.task) := by
  cases ready : w.isReady j.task with
  | false =>
    rw [step_of_unready ready]
    exact ⟨rfl, .inl rfl, rfl, .refl, .refl⟩
  | true =>
    have ht := stands.runs ready
    obtain ⟨focus, stores, registry⟩ := stands.leaves ready hw failed
    obtain ⟨new, p, step, history, task⟩ := hw.step_job ht ready
    have other : p ≠ .over (.ok ()) := by
      rintro rfl
      exact failed task
    refine ⟨focus, registry, stores, (step_chain w j.task).sameSettings (host_not_mem_stepAuthors w j.task), ?_⟩
    apply hw.step_untouched ht rfl history
    intro e he
    rcases List.mem_append.mp he with he | he
    · exact kind_of_isTelling (isTelling_of_concludes _ _ _ e he)
    · exact step.kind_of_failed other e he

theorem filter_reached {r : Reveal} (h : r.Reached a calls) : calls.filter Call.isLink = [] := by
  cases h <;> rfl

theorem filter_script (r : Reveal) (new : Highlight) (previous : Option Highlight) :
    (r.script new previous).filter Call.isLink = [] := by
  cases previous <;> rfl

theorem filter_linking (d : DiagramNo) (l : Location) (none : calls.filter Call.isLink = []) :
    (linking d l ++ calls).filter Call.isLink = [.attachLink d (Link.ofLocation l).toJson] := by
  rw [List.filter_append, none]
  rfl

theorem Attached.attaches (h : j.Attached w more d l s) : j.Attaches w more d l := by
  obtain ⟨attaches, goes, -, -⟩ := h
  exact attaches.mono ((List.prefix_append _ _).trans goes.within)

theorem GoesOn.earlier {q : JobPoint} (h : j.GoesOn w q before more) : before <+: more :=
  (List.prefix_append _ _).trans h.within

/-- An action that finds its preconditions met and has its answer attaches one link. -/
theorem LinkCourse.links {result : Except Problem Unit} (h : j.LinkCourse w more (.ended result) calls)
    (met : ∀ p, result ≠ .error (.unmet p)) (answered : result ≠ .error (.host (.refused .askSelectedNode))) :
    ∃ d l, j.Attaches w more d l ∧ calls.filter Call.isLink = [.attachLink d (Link.ofLocation l).toJson] := by
  cases h with
  | unmet finds => exact absurd rfl (met _)
  | unanswered asks goes refuses => exact absurd rfl answered
  | notAttached attaches goes fails => exact ⟨_, _, attaches.mono goes.earlier, rfl⟩
  | notRevealed attached reached goes fails =>
    exact ⟨_, _, (attached.mono goes.earlier).attaches, filter_linking _ _ (filter_reached reached)⟩
  | revealed attached goes =>
    exact ⟨_, _, (attached.mono goes.earlier).attaches, filter_linking _ _ (filter_script _ _ _)⟩

theorem FindsUnmet.refrains (h : j.FindsUnmet w more p calls) : ∀ c ∈ calls, ∃ d, c = .askSelectedNode d := by
  intro c hc
  cases h with
  | atStart goes unmet => cases hc
  | atAnswer asks goes answers unmet => exact ⟨_, List.mem_singleton.mp hc⟩

/-- An action that reveals something has had it attached. -/
theorem LinkCourse.reveals_attached (h : j.LinkCourse w more q calls) {c : Call} (hc : c ∈ calls)
    (reveals : c.reveals = true) : ∃ d l s new previous, j.Attached w more d l s ∧
      calls <+: linking d l ++ Reveal.script ⟨j.task, s, l⟩ new previous := by
  have other (d : DiagramNo) (l : Location) : c ∉ linking d l := by
    intro mem
    rcases List.mem_pair.mp mem with rfl | rfl <;> cases reveals
  cases h with
  | starting => cases hc
  | unmet finds =>
    obtain ⟨d, rfl⟩ := finds.refrains c hc
    cases reveals
  | asks asks =>
    obtain rfl := List.mem_singleton.mp hc
    cases reveals
  | unanswered asks goes refuses =>
    obtain rfl := List.mem_singleton.mp hc
    cases reveals
  | attaches attaches => exact absurd hc (other _ _)
  | notAttached attaches goes fails => exact absurd hc (other _ _)
  | reveals attached reached =>
    have part := reached.prefix_script ⟨0, 0⟩ none
    exact ⟨_, _, _, _, _, attached, List.prefix_append_right_inj _ |>.mpr part⟩
  | notRevealed attached reached goes fails =>
    have part := reached.prefix_script ⟨0, 0⟩ none
    exact ⟨_, _, _, _, _, attached.mono goes.earlier, List.prefix_append_right_inj _ |>.mpr part⟩
  | revealed attached goes => exact ⟨_, _, _, _, _, attached.mono goes.earlier, List.prefix_rfl⟩

theorem LinkCourse.succeeds (h : j.LinkCourse w more (.ended (.ok ())) calls) : ∃ d l s new previous,
    j.Attached w more d l s ∧ calls = linking d l ++ Reveal.script ⟨j.task, s, l⟩ new previous := by
  cases h with
  | revealed attached goes => exact ⟨_, _, _, _, _, attached.mono goes.earlier, rfl⟩

theorem LinkCourse.fails {problem : Problem} (h : j.LinkCourse w more (.ended (.error problem)) calls) :
    (∃ p, problem = .unmet p) ∨ ∃ before a due, j.GoesOn w (.waiting ⟨a, due⟩) before more ∧
      ((w.run before).answer a).2 = .over (.error problem) := by
  cases h with
  | unmet finds => exact .inl ⟨_, rfl⟩
  | unanswered asks goes refuses => exact .inr ⟨_, _, _, goes, by rw [answer_unanswered refuses]⟩
  | notAttached attaches goes fails => exact .inr ⟨_, _, _, goes, fails⟩
  | notRevealed attached reached goes fails => exact .inr ⟨_, _, _, goes, fails⟩

/-- What an action reports that is not met, it has found. -/
theorem LinkCourse.finds (h : j.LinkCourse w more (.ended (.error (.unmet p))) calls) :
    j.FindsUnmet w more p calls := by
  cases h with
  | unmet finds => exact finds

theorem StandsAt.linksInOrder (stands : j.StandsAt .starting w) (hw : Sound w) (links : j.Performs .linkSelectedNode) :
    j.LinksInOrder w := by
  have course (more : List Move) := stands.course hw links more
  have here {more : List Move} {q : JobPoint} (at' : j.StandsAt q (w.run more)) :
      j.LinkCourse w more q (w.callsBy j.task more) := by
    obtain ⟨q', at'', course⟩ := course more
    rwa [at''.unique at'] at course
  constructor
  case course => exact course
  case reports =>
    exact fun more p => ⟨fun stops => ⟨_, (here stops).finds⟩, fun ⟨calls, found⟩ => found.reports hw links⟩
  case refrains => exact fun more p stops => (here stops).finds.refrains
  case untouched =>
    rintro more failed before ⟨rest, rfl⟩
    obtain ⟨q, at', -⟩ := course before
    -- Had this step ended it well, it would still be so at the end.
    refine at'.leavesAlone (hw.run before) fun ok => failed ?_
    rw [run_append, run_concat]
    exact ok.ended ((hw.run before).move (.step j.task)) rest
  case links => exact fun more result ended met answered => (here ended).links met answered
  case reveals =>
    intro more c hc reveals
    obtain ⟨q, -, course⟩ := course more
    exact course.reveals_attached hc reveals
  case succeeds => exact fun more ended => (here ended).succeeds
  case fails => exact fun more problem ended => (here ended).fails

end Job

/-- Whatever hosts answer and others do meanwhile, the action that links checks its preconditions in order; with one
that is not met it changes nothing, and otherwise it attaches one link and reveals what was attached. -/
theorem run_linksInOrder (settings : Settings) (visible : List Url) (symbols : List Symbol) (conduct : Conduct)
    (moves : List Move) {j : Job} (links : j.Performs .linkSelectedNode)
    (stands : j.StandsAt .starting ((Workspace.new settings visible symbols conduct).run moves)) :
    j.LinksInOrder ((Workspace.new settings visible symbols conduct).run moves) :=
  stands.linksInOrder ((Sound.new settings visible symbols conduct).run moves) links

/-- A reversed selection is attached and revealed, unless the diagram has lost its node when it is asked. -/
theorem reversed_linksInOrder :
    let id : Url := ⟨"file:///chosen.drawio", by decide +kernel⟩
    let uri : Url := ⟨"file:///chosen.rs", by decide +kernel⟩
    let w := (Workspace.new ⟨true, 250, 3, "editor.findMatchBackground"⟩ [] [] (.prompt false false)).run
      [.openDiagram id (.fresh true) true true, .focusDiagram (some id), .addEditor ⟨⟨8, 4⟩, ⟨2, 0⟩⟩,
        .focusEditor (some (1001, uri)), .request (.execute .linkSelectedNode) none]
    let j : Job := ⟨2, .execute .linkSelectedNode, none⟩
    j.StandsAt .starting w ∧ j.LinksInOrder w ∧
      (w.callsBy 2 [.step 2, .closeDiagram id, .step 2, .step 2, .step 2, .step 2]).length = 7 ∧
      (w.run [.step 2, .setNode 0 false, .step 2]).errors = ["No diagram node selected."] := by
  intro id uri w j
  have stands : j.StandsAt .starting w := rfl
  exact ⟨stands, run_linksInOrder _ _ _ _ _ rfl stands, by decide +kernel, by decide +kernel⟩

end DiagramLinks
