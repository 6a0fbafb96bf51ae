import DiagramLinks.Proofs.Commands

namespace DiagramLinks

open Workspace

variable {w u v : Workspace} {t : TaskNo} {d e : DiagramNo} {m : Move} {token : Token}

namespace Workspace

def storeOf? (w : Workspace) (d : DiagramNo) : Option StoreNo :=
  w.diagrams[d]?.map Diagram.store

/-- The moves that concern a diagram. -/
inductive Concerns (w : Workspace) (d : DiagramNo) : Move → Prop
  /-- A step of its session. -/
  | session {t : TaskNo} {token : Token} {p aborted ended}
      (ht : w.tasks[t]? = some ⟨.session d token p, aborted, ended⟩) : Concerns w d (.step t)
  /-- A step of the binding of its selection mode. -/
  | binding {t : TaskNo} {token : Token} {p aborted ended}
      (ht : w.tasks[t]? = some ⟨.selectionMode d token p, aborted, ended⟩) : Concerns w d (.step t)
  /-- The answer of its store, which it may share. -/
  | store {t : TaskNo} {r tag activated due} {e : DiagramNo}
      (ht : w.runs t (.job r tag (.waiting ⟨.storing e activated, due⟩))) (same : w.storeOf? e = w.storeOf? d) :
      Concerns w d (.step t)
  /-- The answer of its host to an action that asked for the selected node. -/
  | link {t : TaskNo} {r tag due} (ht : w.runs t (.job r tag (.waiting ⟨.askingNode d, due⟩))) :
      Concerns w d (.step t)
  /-- A request that names it to link to. -/
  | linkLocation {t : TaskNo} {l tag} (ht : w.runs t (.job (.linkLocation d l) tag .starting)) :
      Concerns w d (.step t)
  /-- Its session is closed, by whatever closes it. -/
  | closes {m : Move} (h : Closes w d m) : Concerns w d m
  | opens {id choice hasNode onService} (new : d = w.diagrams.length) :
      Concerns w d (.openDiagram id choice hasNode onService)
  | send (e : DiagramEvent) : Concerns w d (.send d e)
  | endEvents : Concerns w d (.endEvents d)
  | setNode (hasNode : Bool) : Concerns w d (.setNode d hasNode)
  | closeStore {e : DiagramNo} (same : w.storeOf? e = w.storeOf? d) : Concerns w d (.closeStore e)

end Workspace

/-- A diagram and the activation in its store stay as they are. -/
structure Beside (w u : Workspace) (d : DiagramNo) : Prop where
  diagram : u.diagrams[d]? = w.diagrams[d]?
  activation : u.activation? d = w.activation? d

/-- Whatever sessions the end of the service closes, it leaves all stores alone. -/
theorem retireIfUnused_activation (w : Workspace) (d : DiagramNo) :
    w.retireIfUnused.activation? d = w.activation? d := by
  have release (w : Workspace) (e : DiagramNo) : (w.releaseSession e).activation? d = w.activation? d := by
    obtain ⟨tasks, he, -⟩ := releaseSession_eq w e
    rw [he]
    simp only [activation?, List.getElem?_modify]
    cases w.diagrams[d]? with
    | none => rfl
    | some x => by_cases same : e = d <;> simp [same]
  have releaseAll (registry : List (Url × DiagramNo)) (w : Workspace) :
      (registry.foldl (fun w entry => w.releaseSession entry.2) w).activation? d = w.activation? d := by
    induction registry generalizing w with
    | nil => rfl
    | cons entry rest ih => exact (ih _).trans (release w entry.2)
  unfold retireIfUnused
  split
  · rfl
  · obtain ⟨tasks, he, -⟩ := endService_eq (w.service.registry.foldl (fun w entry => w.releaseSession entry.2) w)
    rw [← releaseAll w.service.registry w]
    show (endService _).activation? d = _
    rw [he]
    rfl

namespace Beside

theorem of_eq (diagrams : u.diagrams = w.diagrams) (stores : u.stores = w.stores) : Beside w u d :=
  ⟨by rw [diagrams], by rw [activation?, activation?, diagrams, stores]⟩

theorem refl : Beside w w d := of_eq rfl rfl

theorem trans (h : Beside w u d) (h' : Beside u v d) : Beside w v d :=
  ⟨h'.diagram.trans h.diagram, h'.activation.trans h.activation⟩

theorem of_diagram (diagram : u.diagrams[d]? = w.diagrams[d]?) (stores : u.stores = w.stores) : Beside w u d :=
  ⟨diagram, by rw [activation?, activation?, diagram, stores]⟩

theorem storeOf? (h : Beside w u d) : u.storeOf? d = w.storeOf? d := by
  rw [Workspace.storeOf?, Workspace.storeOf?, h.diagram]

theorem modifyDiagram (w : Workspace) (f : Diagram → Diagram) (other : e ≠ d) :
    Beside w (w.modifyDiagram e f) d :=
  of_diagram (List.getElem?_modify_ne _ _ other) rfl

theorem modifyActivation (w : Workspace) (f : Watched Bool → Watched Bool) (other : w.storeOf? e ≠ w.storeOf? d) :
    Beside w (w.modifyActivation e f) d := by
  unfold Workspace.modifyActivation
  split
  · next x hx =>
    refine ⟨rfl, ?_⟩
    simp only [activation?]
    cases hy : w.diagrams[d]? with
    | none => rfl
    | some y =>
      have apart : x.store ≠ y.store := by simpa [Workspace.storeOf?, hx, hy] using other
      exact List.getElem?_modify_ne _ _ apart
  · exact refl

theorem releaseSession (w : Workspace) (other : e ≠ d) : Beside w (w.releaseSession e) d := by
  obtain ⟨tasks, he, -⟩ := releaseSession_eq w e
  rw [he]
  exact of_diagram (List.getElem?_modify_ne _ _ other) rfl

theorem closeSession (w : Workspace) (other : e ≠ d) : Beside w (w.closeSession e) d := by
  obtain ⟨notes, -, he⟩ := closeSession_eq w e
  rw [he]
  have noted : Beside w { w with history := notes ++ w.history } d := of_eq rfl rfl
  exact noted.trans (releaseSession _ other)

theorem releaseAll (registry : List (Url × DiagramNo)) (w : Workspace)
    (apart : ∀ entry ∈ registry, entry.2 ≠ d) :
    Beside w (registry.foldl (fun w entry => w.releaseSession entry.2) w) d := by
  induction registry generalizing w with
  | nil => exact refl
  | cons entry registry ih =>
    obtain ⟨first, rest⟩ := List.forall_mem_cons.mp apart
    exact (releaseSession w first).trans (ih _ rest)

theorem retire (w : Workspace) (unregistered : w.isRegistered d = false) : Beside w w.retire d := by
  have apart : ∀ entry ∈ w.service.registry, entry.2 ≠ d := by
    simpa [isRegistered] using unregistered
  refine (releaseAll _ w apart).trans ?_
  obtain ⟨tasks, he, -⟩ := endService_eq (w.service.registry.foldl (fun w entry => w.releaseSession entry.2) w)
  show Beside _ (endService _) d
  rw [he]
  exact of_eq rfl rfl

/-- The service ends and owns no session of the diagram, or it goes on. -/
theorem retireIfUnused (w : Workspace) (unregistered : w.retireIfUnused.service.active.live = w.service.active.live ∨
    w.isRegistered d = false) : Beside w w.retireIfUnused d := by
  unfold Workspace.retireIfUnused at unregistered ⊢
  split
  · exact refl
  · next going =>
    rw [if_neg going] at unregistered
    refine retire w (unregistered.resolve_left fun same => ?_)
    obtain ⟨diagrams, tasks, he⟩ := retire_eq w
    have ended : w.retire.service.active.live = false := by
      rw [he]
      rfl
    rw [ended] at same
    simp [← same] at going

theorem openDiagram (hw : Sound w) (id : Url) (choice : StoreChoice) (hasNode : Bool)
    (other : d ≠ w.diagrams.length) : Beside w (w.openDiagram id choice hasNode) d := by
  obtain ⟨stores, store, ⟨⟨born, rfl⟩, -⟩, he⟩ := openDiagram_eq w id choice hasNode
  rw [he]
  let new : Diagram := ⟨id, store, ⟨[], 1, [w.tasks.length]⟩, [], true, true, hasNode⟩
  have diagram : (w.diagrams ++ [new])[d]? = w.diagrams[d]? :=
    Option.ext fun x => getElem?_concat.trans (or_iff_left fun last => other last.1)
  refine ⟨diagram, ?_⟩
  simp only [activation?]
  rw [diagram]
  cases hx : w.diagrams[d]? with
  | none => rfl
  | some x => exact List.getElem?_append_left (hw.store x (List.mem_of_getElem? hx))

/-- Registering a diagram closes no other document than the one it replaces. -/
theorem register (w : Workspace) (id : Url) (e : DiagramNo) (other : w.service.registry.lookup id ≠ some d) :
    Beside w (w.register id e) d := by
  unfold Workspace.register
  dsimp only
  split
  · exact of_eq rfl rfl
  · next old known =>
    have apart : old ≠ d := fun same => other (same ▸ known)
    have closed : Beside w ((w.updateService fun s =>
        { s with registry := Service.insert s.registry id e }).closeSession old) d :=
      (of_eq rfl rfl : Beside w (w.updateService _) d).trans (closeSession _ apart)
    split
    · exact closed.trans (of_eq rfl rfl)
    · exact closed

theorem closeDiagram (w : Workspace) (id : Url) (other : w.service.registry.lookup id ≠ some d) :
    Beside w (w.closeDiagram id).1 d := by
  unfold Workspace.closeDiagram
  split
  · exact refl
  · next old known =>
    have apart : old ≠ d := fun same => other (same ▸ known)
    have closed : Beside w ((w.updateService fun s =>
        { s with registry := s.registry.filter (·.1 != id) }).closeSession old) d :=
      (of_eq rfl rfl : Beside w (w.updateService _) d).trans (closeSession _ apart)
    dsimp only
    split <;> exact closed.trans (of_eq rfl rfl)

end Beside

/-- Only the answer of a store changes stores. -/
theorem answer_stores {a : Await} (no : ∀ e activated, a ≠ .storing e activated) :
    (w.answer a).1.stores = w.stores := by
  cases a with
  | storing e activated => exact absurd rfl (no e activated)
  | askingNode e =>
    simp only [answer, answerNode]
    repeat' split
    all_goals rfl
  | attaching e l =>
    simp only [answer, answerLink]
    repeat' split
    all_goals rfl
  | searching name visible =>
    simp only [answer, answerSymbols]
    repeat' split
    all_goals rfl
  | opening s l =>
    simp only [answer]
    repeat' split
    all_goals rfl
  | showing s l =>
    simp only [answer]
    split
    · rfl
    · rw [highlight_eq]
      rfl

theorem flip_stores (w : Workspace) (e : Option DiagramNo) : (w.flip e).1.stores = w.stores := by
  unfold Workspace.flip
  repeat' split
  all_goals rfl

theorem perform_stores (w : Workspace) (a : Action) : (w.perform a).1.stores = w.stores := by
  cases a with
  | toggleActivation => exact flip_stores w _
  | linkSelectedNode =>
    simp only [perform, link]
    repeat' split
    all_goals rfl

theorem handle_stores (w : Workspace) (e : DiagramNo) (node : NodeSelection) :
    (w.handle e node).1.stores = w.stores := by
  unfold handle
  repeat' split
  all_goals rfl

theorem start_stores (w : Workspace) (r : Request) : (w.start r).1.stores = w.stores := by
  cases r with
  | flip e => exact flip_stores w e
  | toggle => exact perform_stores w _
  | link => exact perform_stores w _
  | execute action => exact perform_stores w action
  | command id =>
    simp only [start]
    split
    · exact perform_stores w _
    · rfl
  | handle e node => exact handle_stores w e node
  | _ => rfl

namespace Beside

theorem answer {a : Await} (apart : ∀ e activated, a = .storing e activated → w.storeOf? e ≠ w.storeOf? d) :
    Beside w (w.answer a).1 d := by
  obtain ⟨new, -, records⟩ := answer_answers w a
  by_cases storing : ∃ e activated, a = .storing e activated
  · obtain ⟨e, activated, rfl⟩ := storing
    simp only [Workspace.answer, answerStore]
    repeat' split
    all_goals first | exact refl | exact modifyActivation w _ (apart e activated rfl)
  · exact of_eq records.diagrams (answer_stores fun e activated same => storing ⟨e, activated, same⟩)

theorem handle (w : Workspace) (e : DiagramNo) (node : NodeSelection) : Beside w (w.handle e node).1 d := by
  obtain ⟨new, -, records⟩ := handle_handles w e node
  exact of_eq records.diagrams (handle_stores w e node)

theorem continueSession (w : Workspace) (t : TaskNo) (bound : Bool) (p : Progress) :
    Beside w (w.continueSession t e token bound p) d := by
  rw [continueSession_eq]
  exact of_eq rfl rfl

/-- A job that ends may be the end of the service, which concerns the diagrams that it owns. -/
theorem continueJob (w : Workspace) (t : TaskNo) (r : Request) (tag : Option String) (p : Progress)
    (unregistered : (w.continueJob t r tag p).service.active.live = w.service.active.live ∨
      w.isRegistered d = false) : Beside w (w.continueJob t r tag p) d := by
  have goes : Beside w (w.goOn t r tag p) d := of_eq rfl rfl
  rw [continueJob_eq] at unregistered ⊢
  split
  · next isOver =>
    rw [if_pos isOver] at unregistered
    exact goes.trans (retireIfUnused _ unregistered)
  · exact goes

/-- Besides the answer that it hears, the step of a job leaves all diagrams alone that do not end with it. -/
theorem step_job_rest {r : Request} {tag : Option String} {q : JobPoint} (ht : w.runs t (.job r tag q)) :
    ∃ u, u.diagrams = w.diagrams ∧ (u.stores = w.stores ∨ ∃ p, q = .waiting p ∧ u = (w.answer p.await).1) ∧
      ∀ d, (w.step t).activation? d = u.activation? d ∧
        ((w.step t).service.active.live = w.service.active.live ∨ w.isRegistered d = false →
          Beside u (w.step t) d) := by
  by_cases ready : w.isReady t = true
  swap
  · rw [step_of_unready (Bool.eq_false_iff.mpr ready)]
    exact ⟨w, rfl, .inl rfl, fun d => ⟨rfl, fun _ => refl⟩⟩
  rw [step_of_job ht ready]
  have goOn {u : Workspace} (p : Progress) (same : u.service = w.service) (d : DiagramNo) :
      (u.continueJob t r tag p).activation? d = u.activation? d ∧
        ((u.continueJob t r tag p).service.active.live = w.service.active.live ∨ w.isRegistered d = false →
          Beside u (u.continueJob t r tag p) d) := by
    refine ⟨?_, fun unregistered => continueJob u t r tag p ?_⟩
    · rw [continueJob_eq]
      split
      · exact retireIfUnused_activation (u.goOn t r tag p) d
      · rfl
    · rwa [same, isRegistered, same]
  cases q with
  | starting =>
    obtain ⟨new, -, records⟩ := start_starts w r
    exact ⟨_, records.diagrams, .inl (start_stores w r), goOn _ records.service⟩
  | waiting q =>
    obtain ⟨new, -, records⟩ := answer_answers w q.await
    exact ⟨_, records.diagrams, .inr ⟨q, rfl, rfl⟩, goOn _ records.service⟩
  | ended result => exact ⟨w, rfl, .inl rfl, fun d => ⟨rfl, fun _ => refl⟩⟩

theorem step_job_activation {r : Request} {tag : Option String} {q : JobPoint} (ht : w.runs t (.job r tag q))
    (apart : ∀ e activated due, q = .waiting ⟨.storing e activated, due⟩ → w.storeOf? e ≠ w.storeOf? d) :
    (w.step t).activation? d = w.activation? d := by
  obtain ⟨u, diagrams, changes, rest⟩ := step_job_rest ht
  rw [(rest d).1]
  rcases changes with stores | ⟨p, rfl, rfl⟩
  · exact (of_eq diagrams stores).activation
  · exact (answer fun e activated same => apart e activated p.due (same ▸ rfl)).activation

theorem step_job {r : Request} {tag : Option String} {q : JobPoint} (ht : w.runs t (.job r tag q))
    (apart : ∀ e activated due, q = .waiting ⟨.storing e activated, due⟩ → w.storeOf? e ≠ w.storeOf? d)
    (unregistered : (w.step t).service.active.live = w.service.active.live ∨ w.isRegistered d = false) :
    Beside w (w.step t) d := by
  refine ⟨?_, step_job_activation ht apart⟩
  obtain ⟨u, diagrams, -, rest⟩ := step_job_rest ht
  rw [((rest d).2 unregistered).diagram, diagrams]

theorem stepIdle (w : Workspace) (t : TaskNo) (bound : Bool) (other : e ≠ d) :
    Beside w (w.stepIdle t e token bound) d := by
  have ended : Beside w (w.endSession t e token) d := (modifyDiagram w _ other).trans (of_eq rfl rfl)
  unfold Workspace.stepIdle
  split
  · exact of_eq rfl rfl
  · next x hx =>
    split
    · exact ended
    · split
      · split
        · exact refl
        · exact ended
      · next event rest inbox =>
        have taken : Beside w ((w.modifyDiagram e fun x => { x with inbox := rest }).record (.taken e event)) d :=
          (modifyDiagram w _ other).trans (of_eq rfl rfl)
        cases event with
        | ready =>
          dsimp only
          split
          · exact taken.trans (of_eq rfl rfl)
          · exact (taken.trans (modifyDiagram _ _ other)).trans (of_eq rfl rfl)
        | selected node => exact (taken.trans (handle _ e node)).trans (continueSession _ t bound _)

theorem step_session {p : SessionPoint} {symbols : List Symbol} {history : List Entry}
    (ht : w.runs t (.session e token p)) (other : e ≠ d) (stage : Stage symbols e history p) :
    Beside w (w.step t) d := by
  by_cases ready : w.isReady t = true
  swap
  · rw [step_of_unready (Bool.eq_false_iff.mpr ready)]
    exact refl
  have step : w.step t = w.stepSession t e token p := by simp [Workspace.step, ht, ready]
  rw [step]
  cases p with
  | starting =>
    simp only [stepSession]
    split <;> exact of_eq rfl rfl
  | idle bound => exact stepIdle w t bound other
  | handling bound q =>
    cases stage with
    | handling bound pends fits =>
      refine (answer fun e' activated same => ?_).trans (continueSession _ t bound _)
      rw [same] at fits
      cases fits

theorem stepStatus (w : Workspace) (t : TaskNo) (token : Token) (p : StatusPoint) :
    Beside w (w.stepStatus t token p) d := by
  have looks : Beside w (w.lookAtActive t token) d := by
    unfold lookAtActive
    dsimp only
    split <;> exact of_eq rfl rfl
  cases p with
  | starting => exact looks
  | hidden seen =>
    simp only [Workspace.stepStatus]
    repeat' split
    all_goals first | exact looks | exact of_eq rfl rfl
  | watching seen d seenActivation storeOpen =>
    simp only [Workspace.stepStatus]
    repeat' split
    all_goals first | exact looks | exact of_eq rfl rfl

end Beside

/-- A diagram that a move does not concern has no session that ends with the service. -/
theorem Sound.service_goesOn (hw : Sound w) (other : ¬w.Concerns d m) :
    (w.move m).service.active.live = w.service.active.live ∨ w.isRegistered d = false := by
  cases registered : w.isRegistered d with
  | false => exact .inr rfl
  | true =>
    left
    cases hw.registryMove m with
    | keeps kept => exact kept.live
    | ends ended =>
      cases before : w.service.active.live with
      | false => exact ended
      | true => exact absurd (.closes (.endService registered before ended)) other

theorem Sound.step_beside (hw : Sound w) (order : ∀ e, InOrder w e) (other : ¬w.Concerns d (.step t)) :
    Beside w (w.step t) d := by
  have notSession {e : DiagramNo} {token : Token} {p : SessionPoint} {aborted ended : Bool}
      (ht : w.tasks[t]? = some ⟨.session e token p, aborted, ended⟩) : e ≠ d := by
    rintro rfl
    exact other (.session ht)
  -- The task is dropped or goes on; either way it is a task of another diagram or of none.
  rcases step_cases w t with same | ⟨b, hb, dropped⟩ | ⟨b, hb, ready⟩
  · rw [same]
    exact .refl
  · rw [dropped]
    cases b with
    | session e token p => exact (Beside.modifyDiagram w _ (notSession hb)).trans (.of_eq rfl rfl)
    | _ => exact .of_eq rfl rfl
  · cases b with
    | session e token p => exact .step_session hb (notSession hb) ((order e).stage t token p _ _ hb)
    | job r tag q =>
      refine .step_job hb (fun e activated due same store => ?_) (hw.service_goesOn other)
      subst same
      exact other (.store hb store)
    | selectionMode e token p =>
      rcases step_mode hb with same | hc
      · rw [same]
        exact .refl
      · obtain ⟨diagrams, stores⟩ := hc.mode_frame
        exact .of_eq diagrams stores
    | status token p =>
      have step : w.step t = w.stepStatus t token p := by simp [Workspace.step, hb, ready]
      rw [step]
      exact .stepStatus w t token p
    | retraction h due =>
      have step : w.step t = (w.retract h).finish t := by simp [Workspace.step, hb, ready]
      rw [step, retract_eq]
      exact .of_eq rfl rfl

/-- A move leaves a diagram and its store as they are, unless it concerns the diagram. -/
theorem Sound.move_beside (hw : Sound w) (order : ∀ e, InOrder w e) (other : ¬w.Concerns d m) :
    Beside w (w.move m) d := by
  by_cases refused : (m.needsService && !w.service.held) = true
  · rw [show w.move m = w by simp [Workspace.move, refused]]
    exact .refl
  have moved : w.move m = w.carryOut m := if_neg refused
  have held (needs : m.needsService = true) : w.service.held = true := by
    simpa [needs] using refused
  have goesOn := hw.service_goesOn other
  have unopened (closes : d < w.diagrams.length → Closes w d m) : w.diagrams[d]? = none :=
    List.getElem?_eq_none (Nat.not_lt.mp fun opened => other (.closes (closes opened)))
  rw [moved] at goesOn ⊢
  cases m with
  | step t => exact hw.step_beside order other
  | openDiagram id choice hasNode onService =>
    have opened : Beside w (w.openDiagram id choice hasNode) d :=
      .openDiagram hw id choice hasNode fun new => other (.opens new)
    simp only [carryOut]
    split
    · next service =>
      subst service
      -- What was registered under its name before is closed.
      refine opened.trans (.register _ id _ fun known => other (.closes (.reopen (held rfl) ?_)))
      obtain ⟨stores, store, -, he⟩ := openDiagram_eq w id choice hasNode
      rwa [he] at known
    · exact opened
  | closeDiagram id => exact .closeDiagram w id fun known => other (.closes (.closeDiagram (held rfl) known))
  | closeSession e =>
    simp only [carryOut]
    split
    · exact .refl
    · next own =>
      by_cases same : e = d
      · subst same
        have none := unopened fun opened => .closeSession opened (by simpa using own)
        simpa [closeSession, none] using Beside.refl
      · exact .closeSession w same
  | dropSession e =>
    simp only [carryOut]
    split
    · exact .refl
    · next own =>
      by_cases same : e = d
      · subst same
        have none := unopened fun opened => .dropSession opened (by simpa using own)
        simpa [releaseSession, none] using Beside.refl
      · exact .releaseSession w same
  | focusEditor editor => cases editor <;> exact .of_eq rfl rfl
  | readSettings settings =>
    simp only [carryOut, readSettings, setSettings]
    repeat' split
    all_goals exact .of_eq rfl rfl
  | setSettings settings =>
    simp only [carryOut, setSettings]
    split <;> exact .of_eq rfl rfl
  | dropService =>
    have let' : Beside w (w.updateService fun s => { s with held := false }) d := .of_eq rfl rfl
    exact let'.trans (.retireIfUnused _ goesOn)
  | send e event =>
    have apart : e ≠ d := by
      rintro rfl
      exact other (.send event)
    simp only [carryOut, send]
    repeat' split
    all_goals first | exact .refl | exact (Beside.modifyDiagram w _ apart).trans (.of_eq rfl rfl)
  | endEvents e => exact .modifyDiagram w _ fun same => other (same ▸ .endEvents)
  | setNode e hasNode => exact .modifyDiagram w _ fun same => other (same ▸ .setNode hasNode)
  | closeStore e => exact .modifyActivation w _ fun same => other (.closeStore same)
  | _ => exact .of_eq rfl rfl

end DiagramLinks
