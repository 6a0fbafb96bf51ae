import DiagramLinks.Proofs.Work

namespace DiagramLinks

open Workspace

variable {w u v : Workspace} {s t : TaskNo} {d : DiagramNo} {token : Token}

theorem continueSession_spares {bound : Bool} (p : Progress) (ne : t ≠ s) :
    Spares w (w.continueSession t d token bound p) s := by
  rw [continueSession_eq]
  exact .of_modify ne rfl

theorem stepIdle_spares {bound : Bool} (ne : t ≠ s) :
    Spares w (w.stepIdle t d token bound) s := by
  have ended : Spares w (w.endSession t d token) s := .of_modify ne rfl
  unfold stepIdle
  split
  · exact .of_modify ne rfl
  · next x hd =>
    split
    · exact ended
    · split
      · split
        · exact .refl
        · exact ended
      · next e rest inbox =>
        cases e with
        | ready =>
          dsimp only
          split
          · exact .of_tasks rfl
          · exact (Spares.of_append (u := w.spawn _) rfl).trans (.of_modify ne rfl)
        | selected node =>
          dsimp only
          generalize hu : (w.modifyDiagram d fun x => { x with inbox := rest }).record
            (.taken d (.selected node)) = u
          obtain ⟨new, -, records⟩ := handle_handles u d node
          have taken : Spares w u s := .of_tasks (by rw [← hu]; rfl)
          exact (taken.trans (.of_records records)).trans (continueSession_spares _ ne)

theorem stepSession_spares {p : SessionPoint} (ne : t ≠ s) :
    Spares w (w.stepSession t d token p) s := by
  cases p with
  | starting =>
    simp only [stepSession]
    split <;> exact .of_modify ne rfl
  | idle bound => exact stepIdle_spares ne
  | handling bound q =>
    obtain ⟨new, -, records⟩ := answer_answers w q.await
    exact (Spares.of_records records).trans (continueSession_spares _ ne)

theorem continueJob_spares {r : Request} {tag : Option String} (p : Progress) (ne : t ≠ s) :
    Spares w (w.continueJob t r tag p) s := by
  have gone : Spares w (w.goOn t r tag p) s := .of_modify ne rfl
  rw [continueJob_eq]
  split
  · exact gone.trans (.of_chain retireIfUnused_chain (by simp))
  · exact gone

theorem stepJob_spares {r : Request} {tag : Option String} {q : JobPoint} (ne : t ≠ s) :
    Spares w (w.stepJob t r tag q) s := by
  cases q with
  | starting =>
    obtain ⟨new, -, records⟩ := start_starts w r
    exact (Spares.of_records records).trans (continueJob_spares _ ne)
  | waiting q =>
    obtain ⟨new, -, records⟩ := answer_answers w q.await
    exact (Spares.of_records records).trans (continueJob_spares _ ne)
  | ended result => exact .refl

theorem stepStatus_spares {p : StatusPoint} (ne : t ≠ s) : Spares w (w.stepStatus t token p) s := by
  have looks : Spares w (w.lookAtActive t token) s := by
    unfold lookAtActive
    dsimp only
    split <;> exact .of_modify ne rfl
  have ended : Spares w (w.finish t) s := .of_modify ne rfl
  cases p with
  | starting => exact looks
  | hidden seen =>
    simp only [stepStatus]
    repeat' split
    all_goals first | exact ended | exact looks | exact .refl
  | watching seen d seenActivation storeOpen =>
    simp only [stepStatus]
    repeat' split
    all_goals first | exact ended | exact looks | exact .refl | exact .of_modify ne rfl

theorem stepMode_spares {p : ModePoint} (ne : t ≠ s) : Spares w (w.stepMode t d token p) s := by
  unfold stepMode
  split
  · cases p with
    | starting => exact .of_modify ne rfl
    | setting seen enabled due =>
      dsimp only
      split <;> exact .of_modify ne rfl
    | resting seen =>
      dsimp only
      repeat' split
      all_goals first | exact .refl | exact .of_modify ne rfl
  · exact .of_modify ne rfl

/-- A step moves its own task alone. -/
theorem step_spares (w : Workspace) (ne : t ≠ s) : Spares w (w.step t) s := by
  rcases step_cases w t with same | ⟨b, hb, dropped⟩ | ⟨b, hb, ready⟩
  · exact .of_tasks (by rw [same])
  · rw [dropped]
    cases b <;> exact .of_modify ne rfl
  · simp only [Workspace.step, hb, ready, Bool.not_true, Bool.false_eq_true, if_false]
    cases b with
    | status token p => exact stepStatus_spares ne
    | selectionMode d token p => exact stepMode_spares ne
    | session d token p => exact stepSession_spares ne
    | retraction h due =>
      dsimp only
      rw [retract_eq]
      exact .of_modify ne rfl
    | job r tag q => exact stepJob_spares ne

theorem Sound.move_spares {m : Move} (hw : Sound w) (other : m ≠ .step s) :
    Spares w (w.move m) s := by
  have outside (idle : ∀ a ∈ w.authors m, a = .service ∨ ∀ b, a.owns b = false) :
      Spares w (w.move m) s :=
    .of_chain (hw.move_chain m) idle
  cases m with
  | step t => exact step_spares w fun same => other (same ▸ rfl)
  | openDiagram id choice hasNode onService =>
    apply outside
    cases onService <;> simp [authors, Author.owns]
  | _ =>
    apply outside
    simp [authors, Author.owns]

theorem Sound.move_task {m : Move} {b : Activity} {ended : Bool} (hw : Sound w)
    (ht : w.tasks[s]? = some ⟨b, false, ended⟩) (no : Author.service.owns b = false) (other : m ≠ .step s) :
    (w.move m).tasks[s]? = some ⟨b, false, ended⟩ := by
  obtain ⟨aborted, still⟩ := hw.move_spares other _ ht
  obtain rfl : aborted = false := (hw.move m).not_aborted still no
  exact still

/-- A job that has ended stays as it ended. -/
theorem Sound.job_ended {r : Request} {tag : Option String} {q : JobPoint} (hw : Sound w)
    (ht : w.tasks[t]? = some ⟨.job r tag q, false, true⟩) (more : List Move) :
    (w.run more).tasks[t]? = some ⟨.job r tag q, false, true⟩ := by
  induction more generalizing w with
  | nil => exact ht
  | cons m more ih =>
    apply ih (hw.move m)
    by_cases own : m = .step t
    · subst own
      have unready : w.isReady t = false := by simp [isReady, ht]
      exact (congrArg (·.tasks[t]?) (step_of_unready unready)).trans ht
    · exact hw.move_task ht rfl own

/-- A task stands where it was spawned. -/
def Task.IsNew (x : Task) : Prop :=
  x.activity = x.activity.origin ∧ x.ended = false

theorem Change.born {a : Author} {x : Task} (h : Change a w u) (none : w.tasks[s]? = none)
    (ht : u.tasks[s]? = some x) : x.IsNew := by
  -- A change adds no task, or one in its initial place; the service adds none.
  have same (length : u.tasks.length = w.tasks.length) : x.IsNew := by
    rw [List.getElem?_eq_none (length ▸ List.getElem?_eq_none_iff.mp none)] at ht
    cases ht
  have added {b : Activity} (hb : b = b.origin)
      (eq : u.tasks[s]? = (w.tasks ++ [⟨b, false, false⟩])[s]?) : x.IsNew := by
    rw [eq] at ht
    rcases getElem?_concat.mp ht with old | ⟨-, rfl⟩
    · rw [none] at old
      cases old
    · exact ⟨hb, rfl⟩
  by_cases service : a = .service
  · subst service
    rcases h.spawned_eq with eq | ⟨b, hb, -⟩
    · exact same (by simpa [spawned] using congrArg List.length eq)
    · cases hb
  · cases h with
    | highlight settings l => exact added rfl (by rw [highlight_eq])
    | @bind _ t d token diagram rest h hd going inbox =>
      have behind : t ≠ s := by
        rintro rfl
        rw [h] at none
        cases none
      exact added rfl (List.getElem?_modify_ne _ (w.tasks ++ [_]) behind)
    | request r tag => exact added rfl rfl
    | openDiagram id choice hasNode =>
      obtain ⟨stores, store, -, he⟩ := openDiagram_eq w id choice hasNode
      exact added rfl (by rw [he])
    | retract h => exact same (by rw [retract_eq]; exact List.length_modify ..)
    | release => exact absurd rfl service
    | endService => exact absurd rfl service
    | _ => exact same (by first | rfl | exact List.length_modify ..)

/-- None of the authors runs a task that another one of them spawns. -/
def Apart (authors : List Author) : Prop :=
  (.reveal ∈ authors → .retraction ∉ authors) ∧ (.task ∈ authors → .mode ∉ authors) ∧
    (.host ∈ authors ∨ .opening ∈ authors → .task ∉ authors)

theorem Apart.not_owns {authors : List Author} {a a' : Author} {b : Activity} (h : Apart authors)
    (ha : a ∈ authors) (hb : Spawns w a b) (ha' : a' ∈ authors) (ne : a' ≠ .service) :
    a'.owns b = false := by
  obtain ⟨retraction, mode, task⟩ := h
  apply Bool.eq_false_iff.mpr
  intro owned
  cases hb <;> cases a' <;> simp_all [Author.owns, Activity.isWork]

theorem apart_authors (w : Workspace) (m : Move) : Apart (w.authors m) := by
  cases m with
  | step t =>
    show Apart (w.stepAuthors t)
    unfold stepAuthors jobAuthors
    split
    all_goals first | (split <;> simp [Apart, working, answering]) | simp [Apart, working, answering]
  | openDiagram id choice hasNode onService => cases onService <;> simp [Apart, authors]
  | _ => simp [Apart, authors]

/-- A task that is added by authors who are apart is still new. -/
theorem Chain.born {authors : List Author} {x : Task} (h : Chain authors w u) (apart : Apart authors)
    (none : w.tasks[s]? = none) (ht : u.tasks[s]? = some x) :
    x.IsNew := by
  have kept := h.keeps (P := fun v => ∀ x, v.tasks[s]? = some x →
    x.IsNew ∧ ∃ a ∈ authors, ∃ v, Spawns v a x.activity) ?_ ?_
  · exact (kept x ht).1
  · intro x hx
    rw [none] at hx
    cases hx
  · intro a ha v v' hv hc x' hx'
    cases hx : v.tasks[s]? with
    | none =>
      have new := hc.born hx hx'
      rcases hc.task_before hx' with ⟨x, hx', -⟩ | ⟨-, spawns⟩
      · rw [hx] at hx'
        cases hx'
      · exact ⟨new, a, ha, v, new.1 ▸ spawns⟩
    | some x =>
      obtain ⟨new, a', ha', y, spawns⟩ := hv x hx
      by_cases service : a = .service
      · subst service
        obtain ⟨aborted, still⟩ := hc.service_task hx
        obtain rfl := Option.some.inj (hx'.symm.trans still)
        exact ⟨new, a', ha', y, spawns⟩
      · have still := hc.task_eq service hx (apart.not_owns ha' spawns ha service)
        obtain rfl := Option.some.inj (hx'.symm.trans still)
        exact ⟨new, a', ha', y, spawns⟩

theorem Chain.origin {authors : List Author} {x y : Task} (h : Chain authors w u)
    (hy : w.tasks[s]? = some y) (hx : u.tasks[s]? = some x) :
    y.activity.origin = x.activity.origin := by
  have kept := h.keeps (P := fun v => v.spawned[s]? = some y.activity.origin) (spawned_of_task hy)
    fun a ha v v' hv hc => hc.spawned_of hv
  exact Option.some.inj (kept.symm.trans (spawned_of_task hx))

theorem Sound.task_before {m : Move} {x : Task} (hw : Sound w)
    (ht : (w.move m).tasks[s]? = some x) :
    (∃ y, w.tasks[s]? = some y ∧ y.activity.origin = x.activity.origin) ∨
      w.tasks[s]? = none ∧ x.IsNew := by
  have chain := hw.move_chain m
  cases hy : w.tasks[s]? with
  | none => exact .inr ⟨rfl, chain.born (apart_authors w m) hy ht⟩
  | some y => exact .inl ⟨y, rfl, chain.origin hy ht⟩

/-- Once aborted, a task stays so. -/
theorem Change.aborted_stays {a : Author} {x : Task} (h : Change a w u) (hx : w.tasks[s]? = some x)
    (aborted : x.aborted = true) : ∃ x', u.tasks[s]? = some x' ∧ x'.aborted = true := by
  by_cases service : a = .service
  · subst service
    cases h with
    | release d =>
      obtain ⟨tasks, he, hm⟩ := releaseSession_eq w d
      rw [he]
      exact ⟨_, (hm s).trans (by rw [hx]; rfl), by simp [aborted]⟩
    | endService =>
      obtain ⟨tasks, he, hm⟩ := endService_eq w
      rw [he]
      exact ⟨_, (hm s).trans (by rw [hx]; rfl), by simp [aborted]⟩
    | _ => exact ⟨x, hx, aborted⟩
  · have old : w.roster[s]? = some (x.activity.origin, true) := by simp [roster, hx, aborted]
    have new : u.roster[s]? = some (x.activity.origin, true) := by
      rcases h.roster_eq service with same | ⟨b, -, born⟩
      · rw [same, old]
      · rw [born, List.getElem?_append_left (List.getElem?_eq_some_iff.mp old).1, old]
    simp only [roster, List.getElem?_map, Option.map_eq_some_iff, Prod.mk.injEq] at new
    obtain ⟨x', hx', -, flag⟩ := new
    exact ⟨x', hx', flag⟩

theorem Chain.aborted_stays {authors : List Author} {x : Task} (h : Chain authors w u)
    (hx : w.tasks[s]? = some x) (aborted : x.aborted = true) :
    ∃ x', u.tasks[s]? = some x' ∧ x'.aborted = true :=
  h.keeps (P := fun v => ∃ x, v.tasks[s]? = some x ∧ x.aborted = true) ⟨x, hx, aborted⟩
    fun _ _ _ _ ⟨_, hy, flag⟩ hc => hc.aborted_stays hy flag

/-- Where a task comes from that runs, whatever moved it. -/
theorem step_runs {b : Activity} (ht : (w.step s).runs s b) :
    w.runs s b ∨ ∃ b', w.runs s b' ∧ w.isReady s = true := by
  rcases step_cases w s with same | ⟨b', hb, dropped⟩ | ⟨b', hb, ready⟩
  · exact .inl (by rwa [same] at ht)
  · rw [dropped] at ht
    cases b' <;> simp [runs, drop, finish, modifyDiagram, hb] at ht
  · exact .inr ⟨b', hb, ready⟩

/-- Where a task comes from that runs: it takes a step of its own, or it was there, or it is new. -/
theorem Sound.runs_before {m : Move} {b : Activity} (hw : Sound w) (ht : (w.move m).runs s b) :
    w.runs s b ∨ w.tasks[s]? = none ∧ b = b.origin ∨
      m = .step s ∧ ∃ b', w.runs s b' ∧ b'.origin = b.origin ∧ w.isReady s = true := by
  rcases hw.task_before ht with ⟨⟨b', aborted, ended⟩, hb, origin⟩ | ⟨none, new, -⟩
  · by_cases own : m = .step s
    · subst own
      have ht : (w.step s).runs s b := ht
      refine (step_runs ht).imp_right fun ⟨b'', hb', ready⟩ => .inr ⟨rfl, b'', hb', ?_, ready⟩
      obtain ⟨rfl, -⟩ := Task.mk.inj (Option.some.inj (hb.symm.trans hb'))
      exact origin
    · left
      obtain ⟨flag, still⟩ := hw.move_spares own _ hb
      obtain ⟨same, -, same'⟩ := Task.mk.inj (Option.some.inj (ht.symm.trans still))
      obtain rfl : b = b' := same
      obtain rfl : false = ended := same'
      obtain rfl : aborted = false := by
        apply Bool.eq_false_iff.mpr
        intro flag
        obtain ⟨x, hx, stays⟩ := (hw.move_chain m).aborted_stays hb flag
        obtain rfl := Option.some.inj (ht.symm.trans hx)
        cases stays
      exact hb
  · exact .inr (.inl ⟨none, new⟩)

/-- Whether an event belongs neither to a session nor to a job. -/
def Event.isAside : Event → Bool
  | .noted _ => true
  | .indicated _ => true
  | .sent _ _ => true
  | .called (.paint _ _ ranges) => ranges.isEmpty
  | .called (.setSelectionMode _ _) => true
  | .carriedOut (.setSelectionMode _ _) => true
  | _ => false

/-- Nothing is recorded but asides. -/
def Aside (w u : Workspace) : Prop :=
  ∃ new, u.history = new ++ w.history ∧ ∀ e ∈ new, e.event.isAside = true

namespace Aside

theorem of_history (h : u.history = w.history) : Aside w u := ⟨[], h, by simp⟩

theorem refl (w : Workspace) : Aside w w := of_history rfl

theorem trans (h : Aside w u) (h' : Aside u v) : Aside w v := by
  obtain ⟨new, hn, aside⟩ := h
  obtain ⟨more, hm, aside'⟩ := h'
  refine ⟨more ++ new, by rw [hm, hn, List.append_assoc], fun e he => ?_⟩
  rcases List.mem_append.mp he with he | he
  · exact aside' e he
  · exact aside e he

theorem record (w : Workspace) {e : Event} (he : e.isAside = true) : Aside w (w.record e) :=
  ⟨[_], rfl, by simpa using he⟩

end Aside

theorem releaseSession_aside (w : Workspace) (d : DiagramNo) : Aside w (w.releaseSession d) := by
  obtain ⟨tasks, he, -⟩ := releaseSession_eq w d
  exact .of_history (by rw [he])

theorem closeSession_aside (w : Workspace) (d : DiagramNo) : Aside w (w.closeSession d) := by
  unfold closeSession
  split
  · exact .refl w
  · refine Aside.trans ?_ (releaseSession_aside _ d)
    split
    · exact .refl w
    · exact .record w rfl

theorem closeDiagram_aside (w : Workspace) (id : Url) : Aside w (w.closeDiagram id).1 := by
  unfold closeDiagram
  split
  · exact .refl w
  · next d _ =>
    have closed : Aside w ((w.updateService fun s =>
        { s with registry := s.registry.filter (·.1 != id) }).closeSession d) :=
      closeSession_aside _ d
    dsimp only
    split <;> exact closed.trans (.of_history rfl)

theorem register_aside (w : Workspace) (id : Url) (d : DiagramNo) : Aside w (w.register id d) := by
  unfold register
  dsimp only
  split
  · exact .of_history rfl
  · next old _ =>
    have closed : Aside w ((w.updateService fun s =>
        { s with registry := Service.insert s.registry id d }).closeSession old) :=
      closeSession_aside _ old
    split
    · exact closed.trans (.of_history rfl)
    · exact closed

theorem openDiagram_aside (w : Workspace) (id : Url) (choice : StoreChoice) (hasNode : Bool) :
    Aside w (w.openDiagram id choice hasNode) := by
  obtain ⟨stores, store, -, he⟩ := openDiagram_eq w id choice hasNode
  exact .of_history (by rw [he])

theorem setSettings_aside (w : Workspace) (settings : Settings) :
    Aside w (w.setSettings settings) := by
  unfold setSettings
  dsimp only
  split <;> exact .of_history rfl

theorem readSettings_aside (w : Workspace) (settings : Json) :
    Aside w (w.readSettings settings).1 := by
  unfold readSettings
  split
  · exact .record w rfl
  · dsimp only
    refine Aside.trans (Aside.trans ?_ (.record _ rfl)) (setSettings_aside _ _)
    split
    · exact .record w rfl
    · exact .refl w

theorem send_aside (w : Workspace) (d : DiagramNo) (e : DiagramEvent) : Aside w (w.send d e).1 := by
  unfold send
  split
  · exact .refl w
  · split
    · exact .record (w.modifyDiagram d _) rfl
    · exact .refl w

theorem stepStatus_aside {p : StatusPoint} : Aside w (w.stepStatus t token p) := by
  have looks : Aside w (w.lookAtActive t token) := by
    unfold lookAtActive
    dsimp only
    split <;> exact .record w rfl
  cases p with
  | starting => exact looks
  | hidden seen =>
    simp only [stepStatus]
    repeat' split
    all_goals first | exact looks | exact .of_history rfl
  | watching seen d seenActivation storeOpen =>
    simp only [stepStatus]
    repeat' split
    all_goals first | exact looks | exact .of_history rfl | exact .record w rfl

theorem stepMode_aside {p : ModePoint} : Aside w (w.stepMode t d token p) := by
  unfold stepMode
  split
  · cases p with
    | starting => exact .record w rfl
    | setting seen enabled due =>
      dsimp only
      split <;> exact .record w rfl
    | resting seen =>
      dsimp only
      repeat' split
      all_goals first | exact .of_history rfl | exact .record w rfl
  · exact .of_history rfl

theorem step_aside (w : Workspace) (t : TaskNo) : Aside w (w.step t) ∨
    ∃ b, w.runs t b ∧ b.isWork = true ∧ w.isReady t = true := by
  rcases step_cases w t with same | ⟨b, hb, dropped⟩ | ⟨b, hb, ready⟩
  · exact .inl (.of_history (by rw [same]))
  · rw [dropped]
    cases b <;> exact .inl (.of_history rfl)
  · by_cases work : b.isWork = true
    · exact .inr ⟨b, hb, work, ready⟩
    left
    simp only [Workspace.step, hb, ready, Bool.not_true, Bool.false_eq_true, if_false]
    cases b with
    | status token p => exact stepStatus_aside
    | selectionMode d token p => exact stepMode_aside
    | retraction h due =>
      refine ⟨[⟨w.now, .called (.paint h.editor h.decoration [])⟩], ?_, by simp [Event.isAside]⟩
      dsimp only
      rw [retract_eq]
      rfl
    | _ => exact absurd rfl work

/-- Besides the steps of jobs and sessions nothing but asides is recorded. -/
theorem move_aside (w : Workspace) (m : Move) : Aside w (w.move m) ∨
    ∃ t b, m = .step t ∧ w.runs t b ∧ b.isWork = true ∧ w.isReady t = true := by
  unfold move
  split
  · exact .inl (.refl w)
  -- Only a step can be work; whatever users and hosts do is an aside.
  cases m with
  | step t =>
    rcases step_aside w t with aside | ⟨b, runs, work, ready⟩
    · exact .inl aside
    · exact .inr ⟨t, b, rfl, runs, work, ready⟩
  | openDiagram id choice hasNode onService =>
    left
    simp only [carryOut]
    split
    · exact (openDiagram_aside w id choice hasNode).trans (register_aside _ id _)
    · exact openDiagram_aside w id choice hasNode
  | closeDiagram id => exact .inl (closeDiagram_aside w id)
  | closeSession d =>
    left
    simp only [carryOut]
    split
    · exact .refl w
    · exact closeSession_aside w d
  | dropSession d =>
    left
    simp only [carryOut]
    split
    · exact .refl w
    · exact releaseSession_aside w d
  | focusEditor editor => exact .inl (by cases editor <;> exact .of_history rfl)
  | readSettings settings => exact .inl (readSettings_aside w settings)
  | setSettings settings => exact .inl (setSettings_aside w settings)
  | dropService => exact .inl (.of_history (retireIfUnused_history _))
  | send d e => exact .inl (send_aside w d e)
  | closeStore d =>
    left
    simp only [carryOut, closeStore, modifyActivation]
    split <;> exact .of_history rfl
  | _ => exact .inl (.of_history rfl)

end DiagramLinks
