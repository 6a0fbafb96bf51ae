import DiagramLinks.Proofs.Change

namespace DiagramLinks

namespace Workspace

variable {w : Workspace} {t : TaskNo} {d : DiagramNo} {token : Token}

theorem closeSession_chain (d : DiagramNo) : Chain [.activity, .service] w (w.closeSession d) := by
  unfold closeSession
  split
  · exact .refl
  · refine Chain.step ?_ (by decide) (.release d)
    split
    · exact .refl
    · exact (note_chain _ _).mono (by decide)

theorem releaseAll_chain (registry : List (Url × DiagramNo)) (w : Workspace) :
    Chain [.service] w (registry.foldl (fun w entry => w.releaseSession entry.2) w) := by
  induction registry generalizing w with
  | nil => exact .refl
  | cons entry rest ih => exact (Chain.single (.release entry.2)).trans (ih _)

theorem retire_chain : Chain [.service] w w.retire :=
  (releaseAll_chain _ _).trans (Chain.single .endService)

theorem retireIfUnused_chain : Chain [.service] w w.retireIfUnused := by
  unfold retireIfUnused
  split
  · exact .refl
  · exact retire_chain

theorem retireIfUnused_of_held (h : w.service.held = true) : w.retireIfUnused = w := by
  simp [retireIfUnused, h]

/-- Who takes part when a job or a session goes on. -/
def working : List Author := .task :: answering

/-- Who takes part when a job goes on from an answer: the service only when it may end with the job. -/
def concluding (w : Workspace) : List Author :=
  if w.service.held then [.activity, .task] else [.service, .activity, .task]

/-- Who takes part in the step of a job. -/
def jobAuthors (w : Workspace) : List Author :=
  if w.service.held then working else .service :: working

/-- A write at most, and then what the given authors do. -/
def WritesOnce (authors : List Author) (w w' : Workspace) : Prop :=
  ∃ u, (u = w ∨ Change .writer w u) ∧ Chain authors u w'

theorem mem_concluding : ∀ a ∈ [Author.activity, .task], a ∈ w.concluding := by
  unfold concluding
  split <;> simp

theorem WritesOnce.chain {authors more : List Author} {w w' : Workspace} (h : WritesOnce authors w w')
    (writes : .writer ∈ more) (sub : ∀ a ∈ authors, a ∈ more) : Chain more w w' := by
  rcases h with ⟨u, rfl | written, rest⟩
  · exact rest.mono sub
  · exact (Chain.step .refl writes written).trans (rest.mono sub)

theorem continueJob_chain {r : Request} {tag : Option String} {q : JobPoint} (p : Progress)
    (h : w.runs t (.job r tag q)) : Chain w.concluding w (w.continueJob t r tag p) := by
  match p with
  | .waiting p => exact Chain.step .refl (mem_concluding _ (by decide)) (.job _ h)
  | .over result =>
    have hc := conclude_chain w r result
    have hj := task_of_chain (hc.mono (by decide)) h
    let u := ((w.conclude r result).moveTo t (.job r tag (.ended result))).finish t
    have hu : Chain [.activity, .task] w (u.record (.finished r tag result)) := by
      refine Chain.step ?_ (a := .activity) (by decide) (.note rfl)
      refine Chain.step ?_ (by decide) (.endJob (runs_moveTo hj))
      exact Chain.step (hc.mono (by decide)) (by decide) (.job _ hj)
    have hheld := hu.held_eq (by decide)
    show Chain w.concluding w (u.record (.finished r tag result)).retireIfUnused
    -- When nobody holds the service any more, it may end with this job.
    by_cases held : w.service.held = true
    · rw [retireIfUnused_of_held (hheld.trans held)]
      exact hu.mono mem_concluding
    · apply Chain.trans (hu.mono mem_concluding)
      exact retireIfUnused_chain.mono (by simp [concluding, held])

theorem stepJob_writesOnce {r : Request} {tag : Option String} {q : JobPoint}
    (h : w.runs t (.job r tag q)) : WritesOnce (.reveal :: w.concluding) w (w.stepJob t r tag q) := by
  have go {u : Workspace} (hu : Chain answering w u) (p : Progress) :
      Chain (.reveal :: w.concluding) u (u.continueJob t r tag p) := by
    have held : u.concluding = w.concluding := by
      simp only [concluding, hu.held_eq (by decide)]
    exact held ▸ (continueJob_chain p (task_of_chain hu h)).mono fun a => List.mem_cons_of_mem _
  have silent {u : Workspace} (hu : Chain [.activity, .reveal] w u) (p : Progress) :
      WritesOnce (.reveal :: w.concluding) w (u.continueJob t r tag p) := by
    refine ⟨w, .inl rfl, Chain.trans (hu.mono ?_) (go (hu.mono (by decide)) p)⟩
    have := mem_concluding (w := w)
    simp_all
  cases q with
  | starting => exact silent ((start_chain w r).mono (by decide)) _
  | waiting p =>
    rcases answer_cases w p.await with written | asked
    · exact ⟨_, .inr written, go (answer_chain w p.await) _⟩
    · exact silent asked _
  | ended result => exact ⟨w, .inl rfl, .refl⟩

theorem stepJob_chain {r : Request} {tag : Option String} {q : JobPoint}
    (h : w.runs t (.job r tag q)) : Chain w.jobAuthors w (w.stepJob t r tag q) := by
  refine (stepJob_writesOnce h).chain ?_ ?_
  · unfold jobAuthors
    split <;> simp [working, answering]
  · unfold jobAuthors concluding
    split <;> simp [working, answering]

theorem continueSession_chain {bound : Bool} {q : SessionPoint} (p : Progress)
    (h : w.runs t (.session d token q)) (same : bound = q.isBound) :
    Chain [.activity, .task] w (w.continueSession t d token bound p) := by
  match p with
  | .waiting p => exact Chain.step .refl (by decide) (.session h same)
  | .over (.ok ()) =>
    refine Chain.step ?_ (a := .task) (by decide) (.session h same)
    exact Chain.step .refl (by decide) (.handled d _)
  | .over (.error p) =>
    simp only [continueSession]
    refine Chain.step ?_ (a := .task) (by decide) (.session (p := q) ?_ same)
    · refine Chain.step ?_ (a := .task) (by decide) (.handled d _)
      refine Chain.step ?_ (a := .activity) (by decide) (.note rfl)
      split
      · exact (note_chain _ _).mono (by decide)
      · exact .refl
    · split <;> exact h

theorem stepIdle_chain {bound : Bool} (h : w.runs t (.session d token (.idle bound))) :
    Chain [.activity, .task] w (w.stepIdle t d token bound) := by
  -- Both reasons to end are read off the diagram that the step looks at.
  have ending {diagram : Diagram} (hd : w.diagrams[d]? = some diagram)
      (ho : diagram.scope.isCancelled token = true ∨ diagram.inbox = [] ∧ diagram.sending = false) :
      Chain [.activity, .task] w (w.endSession t d token) := by
    refine Chain.step .refl (by decide) (.endSession h fun x hx => ?_)
    obtain rfl := Option.some.inj (hd.symm.trans hx)
    exact ho
  unfold stepIdle
  split
  · next hd =>
    have he : w.finish t = w.endSession t d token := by
      simp [endSession, modifyDiagram, List.modify_eq_self (List.getElem?_eq_none_iff.mp hd)]
    exact he ▸ Chain.step .refl (by decide) (.endSession h (by simp [hd]))
  · next diagram hd =>
    split
    · next cancelled => exact ending hd (.inl cancelled)
    · next going =>
      have going := Bool.eq_false_iff.mpr going
      split
      · next empty =>
        split
        · exact .refl
        · next ending' => exact ending hd (.inr ⟨empty, Bool.eq_false_iff.mpr ending'⟩)
      · next e rest inbox =>
        cases e with
        | ready =>
          dsimp only
          split
          · next hb =>
            refine Chain.step ?_ (a := .task) (by decide) (.handled d _)
            exact Chain.step .refl (by decide) (.take h hd going inbox fun _ => hb)
          · next hb =>
            obtain rfl := Bool.eq_false_iff.mpr hb
            -- The events of the binding are recorded by one change, so no state lies between them.
            exact Chain.step .refl (by decide) (.bind h hd going inbox)
        | selected node =>
          dsimp only
          let u := (w.modifyDiagram d fun diagram => { diagram with inbox := rest }).record
            (.taken d (.selected node))
          have hu : Chain [.activity, .task] w u :=
            Chain.step .refl (by simp) (.take h hd going inbox (by simp))
          have hh := handle_chain u d node
          have hs := continueSession_chain (u.handle d node).2
            (task_of_chain (hh.mono (by decide)) (w := u) (h : u.tasks[t]? = _)) rfl
          exact (hu.trans (hh.mono (by decide))).trans hs

theorem stepSession_writesOnce {q : SessionPoint} (h : w.runs t (.session d token q)) :
    WritesOnce [.activity, .task, .reveal] w (w.stepSession t d token q) := by
  have only {u : Workspace} (hu : Chain [.activity, .task] w u) :
      WritesOnce [.activity, .task, .reveal] w u :=
    ⟨w, .inl rfl, hu.mono (by decide)⟩
  cases q with
  | starting =>
    apply only
    simp only [stepSession]
    refine Chain.step ?_ (a := .task) (by decide) (.session (p := .starting) ?_ rfl)
    · split
      · exact (note_chain _ _).mono (by decide)
      · exact .refl
    · split <;> exact h
  | idle bound => exact only (stepIdle_chain h)
  | handling bound p =>
    have answered := task_of_chain (answer_chain w p.await) h
    have go : Chain [.activity, .task] (w.answer p.await).1
        (w.stepSession t d token (.handling bound p)) :=
      continueSession_chain _ answered rfl
    rcases answer_cases w p.await with written | asked
    · exact ⟨_, .inr written, go.mono (by decide)⟩
    · exact ⟨w, .inl rfl, Chain.trans (asked.mono (by decide)) (go.mono (by decide))⟩

theorem stepSession_chain {q : SessionPoint} (h : w.runs t (.session d token q)) :
    Chain working w (w.stepSession t d token q) :=
  (stepSession_writesOnce h).chain (by decide) (by decide)

theorem lookAtActive_chain {q : StatusPoint} (h : w.runs t (.status token q)) :
    Chain [.status] w (w.lookAtActive t token) := by
  unfold lookAtActive
  dsimp only
  split
  · next none =>
    refine .single (.hide h fun d hd => ?_)
    simpa [hd] using none
  · next d a some =>
    simp only [Option.bind_eq_some_iff, Option.map_eq_some_iff] at some
    obtain ⟨d', hd, a', ha, heq⟩ := some
    obtain ⟨rfl, rfl⟩ := Prod.mk.inj heq
    exact .single (.watch h hd ha)

theorem stepStatus_chain {q : StatusPoint} (h : w.runs t (.status token q)) :
    Chain [.status] w (w.stepStatus t token q) := by
  cases q with
  | starting => exact lookAtActive_chain h
  | hidden seen =>
    simp only [stepStatus]
    split
    · next c => exact .single (.endStatus h (.inr (.inl c)))
    · split
      · exact lookAtActive_chain h
      · split
        · exact .refl
        · next l => exact .single (.endStatus h (.inr (.inr (Bool.eq_false_iff.mpr l))))
  | watching seen d seenActivation storeOpen =>
    simp only [stepStatus]
    split
    · next c => exact .single (.endStatus h (.inr (.inl c)))
    · split
      · exact lookAtActive_chain h
      · next settled =>
        have settled := Bool.eq_false_iff.mpr settled
        split
        · next l => exact .single (.endStatus h (.inr (.inr (by simpa using l))))
        · split
          · exact .refl
          · next a ha =>
            cases storeOpen with
            | false => exact .refl
            | true =>
              simp only [Bool.not_true, Bool.false_eq_true, ↓reduceIte]
              split
              · exact .single (.showWatched true h settled ha (.inl rfl))
              · next old =>
                split
                · exact .refl
                · next l =>
                  exact .single (.showWatched false h settled ha
                    (.inr ⟨Bool.eq_false_iff.mpr old, Bool.eq_false_iff.mpr l⟩))

/-- A step of a selection mode's task is one change at most. -/
theorem stepMode_change {q : ModePoint} (h : w.runs t (.selectionMode d token q)) :
    w.stepMode t d token q = w ∨ Change .mode w (w.stepMode t d token q) := by
  unfold stepMode
  split
  · next diagram a hd ha =>
    cases q with
    | starting => exact .inr (.setMode h ha (.inl rfl))
    | setting seen enabled due =>
      dsimp only
      split
      · exact .inr (.rest h rfl)
      · exact .inr (.rest h rfl)
    | resting seen =>
      have ending (why : diagram.scope.isCancelled token = true ∨
          a.isNews seen = false ∧ a.live = false) : Change .mode w (w.finish t) :=
        .endMode h (.inr (.inr (.inr ⟨diagram, a, seen, hd, ha, rfl, why⟩)))
      dsimp only
      split
      · next cancelled => exact .inr (ending (.inl cancelled))
      · split
        · next news => exact .inr (.setMode h ha (.inr ⟨seen, rfl, news⟩))
        · next old =>
          split
          · exact .inl rfl
          · next closed =>
            exact .inr (ending (.inr ⟨Bool.eq_false_iff.mpr old, Bool.eq_false_iff.mpr closed⟩))
  · next hn =>
    refine .inr (.endMode h ?_)
    cases hd : w.diagrams[d]? with
    | none => exact .inr (.inl rfl)
    | some diagram =>
      cases ha : w.activation? d with
      | none => exact .inr (.inr (.inl rfl))
      | some a => exact (hn diagram a hd ha).elim

theorem step_of_unready (unready : w.isReady t = false) : w.step t = w := by
  unfold step
  split
  · rfl
  · rw [unready]
    rfl

/-- A task that takes a step was aborted and is dropped, or it goes on. -/
theorem step_cases (w : Workspace) (t : TaskNo) :
    w.step t = w ∨ (∃ b, w.tasks[t]? = some ⟨b, true, false⟩ ∧ w.step t = w.drop t b) ∨
      ∃ b, w.runs t b ∧ w.isReady t = true := by
  cases ht : w.tasks[t]? with
  | none => exact .inl (by simp [step, ht])
  | some task =>
    obtain ⟨b, aborted, ended⟩ := task
    cases ready : w.isReady t with
    | false => exact .inl (by simp [step, ht, ready])
    | true =>
      obtain rfl : ended = false := by
        simp only [isReady, ht] at ready
        simp_all
      cases aborted with
      | true => exact .inr (.inl ⟨b, rfl, by simp [step, ht, ready]⟩)
      | false => exact .inr (.inr ⟨b, ht, rfl⟩)

theorem step_of_job {r : Request} {tag : Option String} {q : JobPoint} (ht : w.runs t (.job r tag q))
    (ready : w.isReady t = true) : w.step t = w.stepJob t r tag q := by
  simp [step, ht, ready]

def mover : Activity → Author
  | .status _ _ => .status
  | .selectionMode _ _ _ => .mode
  | .session _ _ _ => .task
  | .retraction _ _ => .retraction
  | .job _ _ _ => .task

theorem drop_change {b : Activity} (h : w.tasks[t]? = some ⟨b, true, false⟩) :
    Change (mover b) w (w.drop t b) := by
  cases b with
  | status token p => exact .endStatus h (.inl rfl)
  | selectionMode d token p => exact .endMode h (.inl rfl)
  | session d token p => exact .dropSession h
  | retraction highlight due => exact .dropRetraction h
  | job r tag p => exact .dropJob h

theorem step_mode {q : ModePoint} {aborted ended : Bool}
    (h : w.tasks[t]? = some ⟨.selectionMode d token q, aborted, ended⟩) :
    w.step t = w ∨ Change .mode w (w.step t) := by
  rcases step_cases w t with same | ⟨b, hb, dropped⟩ | ⟨b, hb, ready⟩
  · exact .inl same
  · obtain ⟨rfl, -⟩ := Task.mk.inj (Option.some.inj (h.symm.trans hb))
    exact .inr (dropped ▸ drop_change hb)
  · obtain ⟨rfl, -⟩ := Task.mk.inj (Option.some.inj (h.symm.trans hb))
    have he : w.step t = w.stepMode t d token q := by simp [step, hb, ready]
    exact he ▸ stepMode_change hb

/-- Who takes part in the step of a task. -/
def stepAuthors (w : Workspace) (t : TaskNo) : List Author :=
  match w.tasks[t]?.map Task.activity with
  | some (.status _ _) => [.status]
  | some (.selectionMode _ _ _) => [.mode]
  | some (.retraction _ _) => [.retraction]
  | some (.job _ _ _) => w.jobAuthors
  | some (.session _ _ _) => working
  | none => []

theorem mover_mem_stepAuthors {task : Task} (h : w.tasks[t]? = some task) :
    mover task.activity ∈ w.stepAuthors t := by
  obtain ⟨b, aborted, ended⟩ := task
  cases b with
  | job r tag p =>
    simp only [stepAuthors, h, Option.map_some, jobAuthors]
    split <;> simp [working, mover]
  | _ => simp [stepAuthors, h, mover, working]

theorem step_chain (w : Workspace) (t : TaskNo) : Chain (w.stepAuthors t) w (w.step t) := by
  rcases step_cases w t with same | ⟨b, h, dropped⟩ | ⟨b, h, ready⟩
  · rw [same]
  · rw [dropped]
    exact Chain.step .refl (mover_mem_stepAuthors h) (drop_change h)
  · simp only [step, h, ready, Bool.not_true, Bool.false_eq_true, if_false]
    cases b with
    | status token p => exact (stepStatus_chain h).mono (by simp [stepAuthors, h])
    | selectionMode d token p =>
      show Chain (w.stepAuthors t) w (w.stepMode t d token p)
      rcases stepMode_change h with same | changed
      · rw [same]
      · exact Chain.step .refl (mover_mem_stepAuthors h) changed
    | session d token p => exact (stepSession_chain h).mono (by simp [stepAuthors, h])
    | retraction highlight due => exact Chain.step .refl (mover_mem_stepAuthors h) (.retract h)
    | job r tag p => exact (stepJob_chain h).mono (by simp [stepAuthors, h])

/-- However many changes a step makes, one write is the most. -/
theorem step_writesOnce (w : Workspace) (t : TaskNo) :
    ∃ authors, Author.writer ∉ authors ∧ WritesOnce authors w (w.step t) := by
  rcases step_cases w t with same | ⟨b, h, dropped⟩ | ⟨b, h, ready⟩
  · exact ⟨[], by simp, w, .inl rfl, by rw [same]⟩
  · refine ⟨[mover b], ?_, w, .inl rfl, dropped ▸ .single (drop_change h)⟩
    cases b <;> simp [mover]
  · have silent (no : Author.writer ∉ w.stepAuthors t) :
        ∃ authors, Author.writer ∉ authors ∧ WritesOnce authors w (w.step t) :=
      ⟨_, no, w, .inl rfl, step_chain w t⟩
    cases b with
    | job r tag q =>
      refine ⟨_, ?_, step_of_job h ready ▸ stepJob_writesOnce h⟩
      unfold concluding
      split <;> simp
    | session d token q =>
      have he : w.step t = w.stepSession t d token q := by simp [step, h, ready]
      exact ⟨_, by simp, he ▸ stepSession_writesOnce h⟩
    | _ => exact silent (by simp [stepAuthors, h])

theorem openDiagram_length (w : Workspace) (id : Url) (choice : StoreChoice) (hasNode : Bool) :
    w.diagrams.length < (w.openDiagram id choice hasNode).diagrams.length := by
  obtain ⟨stores, store, -, h⟩ := openDiagram_eq w id choice hasNode
  simp [h]

theorem register_chain (id : Url) (valid : d < w.diagrams.length) :
    Chain [.activity, .service] w (w.register id d) := by
  have hr : Chain [.activity, .service] w
      (w.updateService fun s => { s with registry := Service.insert s.registry id d }) :=
    Chain.step .refl (by decide) (.register id valid)
  unfold register
  dsimp only
  split
  · exact hr
  · next old _ =>
    have hc := hr.trans (closeSession_chain old)
    split
    · refine Chain.step hc (by decide) (.activate ?_)
      intro d' hd'
      obtain rfl := Option.some.inj hd'
      rw [closeSession_length]
      exact valid
    · exact hc

theorem refocus_chain (w : Workspace) (focus : Focus) {v : Option DiagramNo}
    (valid : ∀ d, v = some d → d < w.diagrams.length) :
    Chain [.service] w (w.updateService fun s => { s with focus, active := s.active.replace v }) :=
  Chain.step (Chain.single (.focus focus)) (a := .service) (by decide) (.activate valid)

theorem closeDiagram_chain (w : Workspace) (id : Url) :
    Chain [.activity, .service] w (w.closeDiagram id).1 := by
  unfold closeDiagram
  split
  · exact .refl
  · next d _ =>
    dsimp only
    have hu : Chain [.activity, .service] w
        (w.updateService fun s => { s with registry := s.registry.filter (·.1 != id) }) :=
      Chain.step .refl (by decide) (.unregister id)
    have hc := hu.trans (closeSession_chain d)
    split
    · exact hc.trans ((refocus_chain _ _ (v := none) (by simp)).mono (by simp))
    · exact Chain.step hc (a := .service) (by decide) (.focus _)

theorem mem_of_lookup {registry : List (Url × DiagramNo)} {id : Url}
    (h : registry.lookup id = some d) : (id, d) ∈ registry := by
  obtain ⟨before, after, rfl, -⟩ := List.lookup_eq_some_iff.mp h
  simp

theorem focusDiagram_eq (w : Workspace) (id : Option Url) :
    ∃ target : Option (Url × DiagramNo),
      (∀ entry, target = some entry → entry ∈ w.service.registry) ∧
      w.focusDiagram id = w.updateService fun s =>
        { s with
          focus :=
            { w.service.focus with
              active := target.map Prod.fst
              lastActive := (target.map Prod.fst).or w.service.focus.lastActive }
          active := s.active.replace (target.map Prod.snd) } := by
  refine ⟨id.bind fun id => (w.service.registry.lookup id).map fun d => (id, d), ?_, ?_⟩
  · intro entry he
    simp only [Option.bind_eq_some_iff, Option.map_eq_some_iff] at he
    obtain ⟨id, -, d, hd, rfl⟩ := he
    exact mem_of_lookup hd
  · unfold focusDiagram
    generalize (id.bind fun id => (w.service.registry.lookup id).map fun d => (id, d)) = target
    rcases target with _ | ⟨id, d⟩ <;> rfl

theorem focusDiagram_chain (id : Option Url)
    (valid : ∀ entry ∈ w.service.registry, entry.2 < w.diagrams.length) :
    Chain [.service] w (w.focusDiagram id) := by
  obtain ⟨target, known, he⟩ := focusDiagram_eq w id
  have hv : ∀ d, target.map Prod.snd = some d → d < w.diagrams.length := by
    intro d hd
    obtain ⟨entry, ht, rfl⟩ := Option.map_eq_some_iff.mp hd
    exact valid entry (known entry ht)
  rw [he]
  exact refocus_chain w _ hv

theorem setSettings_chain (settings : Settings) : Chain [.host] w (w.setSettings settings) := by
  unfold setSettings
  dsimp only
  split
  · exact Chain.step (.single (.setSettings settings)) (by decide) (.setRevealSettings settings)
  · exact .single (.setSettings settings)

theorem readSettings_chain (settings : Json) :
    Chain [.activity, .host] w (w.readSettings settings).1 := by
  unfold readSettings
  split
  · exact (note_chain w _).mono (by decide)
  · dsimp only
    refine Chain.trans ?_ ((setSettings_chain _).mono (by decide))
    refine Chain.trans ?_ ((note_chain _ _).mono (by decide))
    split
    · exact (note_chain w _).mono (by decide)
    · exact .refl

theorem send_chain (d : DiagramNo) (e : DiagramEvent) : Chain [.host] w (w.send d e).1 := by
  unfold send
  split
  · exact .refl
  · next diagram hd =>
    split
    · next taking =>
      rw [Bool.and_eq_true] at taking
      exact .single (.send e hd taking.1 taking.2)
    · exact .refl

theorem closeStore_chain (d : DiagramNo) : Chain [.host] w (w.closeStore d) := by
  unfold closeStore
  cases hd : w.diagrams[d]? with
  | none =>
    simp only [modifyActivation, hd]
    exact .refl
  | some diagram => exact modifyActivation_eq hd Watched.close ▸ .single (.closeStore hd)

/-- Who takes part in a move. -/
def authors (w : Workspace) : Move → List Author
  | .step t => w.stepAuthors t
  | .openDiagram _ _ _ onService => if onService then [.opening, .activity, .service] else [.opening]
  | .closeDiagram _ => [.activity, .service]
  | .closeSession _ => [.activity, .service]
  | .dropSession _ => [.activity, .service]
  | .focusDiagram _ => [.service]
  | .dropService => [.service]
  | .readSettings _ => [.activity, .host]
  | _ => [.host]

/-- The status indicator and selection modes move by steps of their own tasks alone. -/
theorem exists_step {a : Author} {m : Move} (ha : a = .status ∨ a = .mode) (h : a ∈ w.authors m) :
    ∃ t task, m = .step t ∧ w.tasks[t]? = some task ∧ mover task.activity = a ∧ w.authors m = [a] := by
  have absent : a ∉ working ∧ a ∉ Author.service :: working := by
    rcases ha with rfl | rfl <;> simp [working, answering]
  cases m with
  | step t =>
    have part : a ∈ w.stepAuthors t := h
    cases ht : w.tasks[t]? with
    | none => simp [stepAuthors, ht] at part
    | some task =>
      refine ⟨t, task, rfl, ht, ?_⟩
      obtain ⟨b, aborted, ended⟩ := task
      cases b with
      | job r tag p =>
        simp only [stepAuthors, ht, Option.map_some, jobAuthors] at part
        split at part
        · exact absurd part absent.1
        · exact absurd part absent.2
      | session d token p =>
        simp only [stepAuthors, ht, Option.map_some] at part
        exact absurd part absent.1
      | _ =>
        simp only [authors, stepAuthors, ht, Option.map_some] at part ⊢
        obtain rfl := List.mem_singleton.mp part
        exact ⟨rfl, rfl⟩
  | openDiagram id choice hasNode onService =>
    cases onService <;> rcases ha with rfl | rfl <;> simp [authors] at h
  | _ => rcases ha with rfl | rfl <;> simp [authors] at h

/-- Every move is a chain of changes by those who take part in it. -/
theorem move_chain (m : Move)
    (valid : ∀ entry ∈ w.service.registry, entry.2 < w.diagrams.length) :
    Chain (w.authors m) w (w.move m) := by
  unfold move
  split
  · exact .refl
  -- One change for most moves; the others are chains of their own.
  cases m with
  | step t => exact step_chain w t
  | wait milliseconds => exact .single (.wait milliseconds)
  | request r tag => exact .single (.request r tag)
  | openDiagram id choice hasNode onService =>
    have ho : Chain [.opening] w (w.openDiagram id choice hasNode) :=
      .single (.openDiagram id choice hasNode)
    cases onService with
    | false => exact ho
    | true =>
      exact (ho.mono (by simp [authors])).trans
        ((register_chain id (openDiagram_length w id choice hasNode)).mono (by simp [authors]))
  | closeDiagram id => exact closeDiagram_chain w id
  | closeSession d =>
    simp only [carryOut]
    split
    · exact .refl
    · exact closeSession_chain d
  | dropSession d =>
    simp only [carryOut]
    split
    · exact .refl
    · exact (Chain.single (.release d)).mono (by simp [authors])
  | focusDiagram id => exact focusDiagram_chain id valid
  | focusEditor editor =>
    cases editor with
    | none => exact .refl
    | some editor => exact .single (.focusEditor editor)
  | readSettings settings => exact readSettings_chain settings
  | setSettings settings => exact setSettings_chain settings
  | setRevealSettings settings => exact .single (.setRevealSettings settings)
  | dropService => exact (Chain.single .letGo).trans retireIfUnused_chain
  | send d e => exact send_chain d e
  | endEvents d => exact .single (.endEvents d)
  | setNode d hasNode => exact .single (.setNode d hasNode)
  | closeStore d => exact closeStore_chain d
  | addEditor range => exact .single (.addEditor range)
  | select editor range => exact .single (.select editor range)
  | setVisible visible => exact .single (.setVisible visible)
  | setRefusal operation on => exact .single (.setRefusal operation on)
  | setLatency operation milliseconds => exact .single (.setLatency operation milliseconds)

theorem move_writesOnce (m : Move)
    (valid : ∀ entry ∈ w.service.registry, entry.2 < w.diagrams.length) :
    ∃ authors, Author.writer ∉ authors ∧ WritesOnce authors w (w.move m) := by
  have silent (no : Author.writer ∉ w.authors m) :
      ∃ authors, Author.writer ∉ authors ∧ WritesOnce authors w (w.move m) :=
    ⟨_, no, w, .inl rfl, move_chain m valid⟩
  cases m with
  | step t => exact step_writesOnce w t
  | openDiagram id choice hasNode onService => cases onService <;> exact silent (by simp [authors])
  | _ => exact silent (by simp [authors])

theorem run_append (w : Workspace) (moves more : List Move) : w.run (moves ++ more) = (w.run moves).run more :=
  List.foldl_append

theorem run_concat (w : Workspace) (moves : List Move) (m : Move) :
    w.run (moves ++ [m]) = (w.run moves).move m :=
  run_append w moves [m]

end Workspace

end DiagramLinks
