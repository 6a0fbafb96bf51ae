import DiagramLinks.Proofs.Retraction
import DiagramLinks.Proofs.Channel

namespace DiagramLinks

open Workspace

variable {w w' : Workspace} {t : TaskNo} {d : DiagramNo} {token : Token}

/-- Whether the session of a diagram takes an event or is through with one. -/
def Event.isTurnOf (d : DiagramNo) : Event → Bool
  | .taken e _ => e == d
  | .handled e _ => e == d
  | _ => false

theorem isTurnOf_of_kind {e : Event} (h : e.kind ≠ .session) : e.isTurnOf d = false := by
  unfold Event.isTurnOf
  split
  · exact absurd rfl h
  · exact absurd rfl h
  · rfl

theorem isTurnOf_mapped {events : List Event} (kinds : ∀ e ∈ events, e.kind ≠ .session) (n : Nat) :
    ∀ e ∈ events.map (Entry.mk n), e.event.isTurnOf d = false :=
  List.forall_mem_map.mpr fun e he => isTurnOf_of_kind (kinds e he)

theorem Chain.diagram {authors : List Author} (h : Chain authors w w') {x : Diagram}
    (hx : w.diagrams[d]? = some x) : ∃ x', w'.diagrams[d]? = some x' := by
  refine h.keeps (P := fun u => ∃ x, u.diagrams[d]? = some x) ⟨x, hx⟩ ?_
  rintro a - u u' ⟨y, hy⟩ hc
  obtain ⟨y', hy', -⟩ := hc.diagram hy
  exact ⟨y', hy'⟩

theorem Chain.isClosed {authors : List Author} (h : Chain authors w w') {x : Diagram}
    (hx : w.diagrams[d]? = some x) (closed : w.isClosed d = true) : w'.isClosed d = true := by
  have kept := h.keeps (P := fun u => u.isClosed d = true ∧ ∃ x, u.diagrams[d]? = some x)
    ⟨closed, x, hx⟩ ?_
  · exact kept.1
  · rintro a - u u' ⟨closed, y, hy⟩ hc
    obtain ⟨y', hy', -⟩ := hc.diagram hy
    exact ⟨hc.isClosed hy closed, y', hy'⟩

theorem Chain.diagrams_le {authors : List Author} (h : Chain authors w w') :
    w.diagrams.length ≤ w'.diagrams.length := by
  refine h.keeps (P := fun u => w.diagrams.length ≤ u.diagrams.length) (Nat.le_refl _) ?_
  intro a ha u u' hu hc
  by_cases opening : a = .opening
  · subst opening
    cases hc with
    | openDiagram id choice hasNode =>
      exact Nat.le_trans hu (Nat.le_of_lt (openDiagram_length u id choice hasNode))
  · rw [hc.diagrams_length opening]
    exact hu

theorem Sound.run_isClosed (hw : Sound w) (moves : List Move) {x : Diagram}
    (hx : w.diagrams[d]? = some x) (closed : w.isClosed d = true) :
    (w.run moves).isClosed d = true := by
  induction moves generalizing w x with
  | nil => exact closed
  | cons m moves ih =>
    have chain := hw.move_chain m
    obtain ⟨x', hx'⟩ := chain.diagram hx
    exact ih (hw.move m) hx' (chain.isClosed hx closed)

theorem Served.opened (h : Served w) {token : Token} {p : SessionPoint} {aborted ended : Bool}
    (ht : w.tasks[t]? = some ⟨.session d token p, aborted, ended⟩) :
    token = [0] ∧ ∃ x, w.diagrams[d]? = some x := by
  obtain ⟨rfl, valid⟩ := h.sound.roster.session t d token (spawned_of_task ht)
  exact ⟨rfl, _, List.getElem?_eq_getElem valid⟩

/-- Each diagram has a session, which is aborted when the diagram is closed. -/
theorem Served.session (h : Served w) {x : Diagram} (hx : w.diagrams[d]? = some x) :
    ∃ (t : TaskNo) (p : SessionPoint) (ended : Bool),
      w.tasks[t]? = some ⟨.session d [0] p, w.isClosed d, ended⟩ := by
  obtain ⟨t, roster, -⟩ := h.owned d x hx
  simp only [Workspace.roster, List.getElem?_map, Option.map_eq_some_iff, Prod.mk.injEq] at roster
  obtain ⟨⟨b, aborted, ended⟩, ht, origin, flag⟩ := roster
  cases b with
  | session e token p =>
    obtain ⟨rfl, rfl, -⟩ := Activity.session.inj origin
    obtain rfl := h.owned.aborted_eq h.sound ht
    exact ⟨t, p, ended, ht⟩
  | _ => cases origin

theorem Sound.session_unique (hw : Sound w) {s : TaskNo} {token token' : Token}
    {p p' : SessionPoint} {aborted aborted' ended ended' : Bool}
    (ht : w.tasks[t]? = some ⟨.session d token p, aborted, ended⟩)
    (hs : w.tasks[s]? = some ⟨.session d token' p', aborted', ended'⟩) : t = s := by
  have spawned := spawned_of_task ht
  have spawned' := spawned_of_task hs
  obtain ⟨rfl, -⟩ := hw.roster.session t d token spawned
  obtain ⟨rfl, -⟩ := hw.roster.session s d token' spawned'
  exact hw.roster.unique t s d spawned spawned'

theorem kind_of_isAside {e : Event} (h : e.isAside = true) : e.kind ≠ .session := by
  unfold Event.isAside at h
  split at h <;> simp_all [Event.kind]

theorem kind_highlightEvents {s : Settings} {l : Location} {e : Event}
    (he : e ∈ w.highlightEvents s l) : e.kind = .decoration ∨ e.kind = .plain := by
  simp only [highlightEvents, clearing, List.mem_cons, List.mem_append, Option.mem_toList,
    Option.map_eq_some_iff, List.not_mem_nil, or_false] at he
  rcases he with rfl | rfl | ⟨h, -, rfl⟩ | rfl | rfl <;> simp [Event.kind]

theorem Answers.kind {a : Await} {new : List Event} {p : Progress} (h : Answers w a new p) :
    ∀ e ∈ new, e.kind ≠ .session := by
  intro e he
  cases h with
  | shows s l =>
    rcases List.mem_append.mp he with he | he
    · rcases kind_highlightEvents he with kind | kind <;> simp [kind]
    · simp_all [Event.kind, Await.call]
  | _ => simp_all [Event.kind, Await.call] <;> rcases he with rfl | rfl | rfl <;> simp

theorem Handles.kind {node : NodeSelection} {new : List Event} {p : Progress}
    (h : Handles w d node new p) : ∀ e ∈ new, e.kind ≠ .session := by
  intro e he
  cases h <;> simp_all [Event.kind, Await.call]

theorem Starts.kind {r : Request} {new : List Event} {p : Progress} (h : Starts w r new p) :
    ∀ e ∈ new, e.kind ≠ .session := by
  intro e he
  cases h with
  | handles h => exact h.kind e he
  | flips hd => rcases List.mem_cons.mp he with rfl | he <;> simp_all [Event.kind, Await.call]
  | _ => simp_all [Event.kind, Await.call]

theorem Request.concludes_kind (r : Request) (tag : Option String) (p : Progress) :
    ∀ e ∈ r.concludes tag p, e.kind ≠ .session := by
  intro e he
  match p with
  | .waiting p => cases he
  | .over result =>
    rcases List.mem_cons.mp he with rfl | he
    · simp [Event.kind]
    · unfold Request.tells at he
      split at he
      · simp only [List.mem_cons, List.not_mem_nil, or_false] at he
        rcases he with rfl | rfl <;> simp [Event.kind]
      · cases he

theorem JobStep.kind {r : Request} {q : JobPoint} {new : List Event} {p : Progress}
    (h : JobStep w r q new p) : ∀ e ∈ new, e.kind ≠ .session := by
  cases h with
  | starts h => exact h.kind
  | goesOn due h => exact h.kind

theorem reports_isTurnOf {e : DiagramNo} (other : e ≠ d) (p : Progress) :
    ∀ event ∈ w.reports e p, event.isTurnOf d = false := by
  intro event he
  match p with
  | .waiting p => cases he
  | .over (.ok ()) =>
    obtain rfl := List.mem_singleton.mp he
    simp [Event.isTurnOf, other]
  | .over (.error p) =>
    simp only [Workspace.reports, List.mem_cons, Option.mem_toList, Option.map_eq_some_iff] at he
    rcases he with rfl | rfl | ⟨x, -, rfl⟩ <;> simp [Event.isTurnOf, other]

theorem SessionStep.isTurnOf {e : DiagramNo} {p q : SessionPoint} {new : List Event} {ended : Bool}
    (h : SessionStep w e token p new q ended) (other : e ≠ d) :
    ∀ event ∈ new, event.isTurnOf d = false := by
  intro event he
  cases h with
  | starts hd =>
    obtain rfl := List.mem_singleton.mp he
    rfl
  | ends hd ending => cases he
  | readies hd inbox going =>
    rcases List.mem_cons.mp he with rfl | he
    · simp [Event.isTurnOf, other]
    · obtain rfl := List.mem_singleton.mp he
      simp [Event.isTurnOf, other]
  | takes hd inbox going h =>
    rcases List.mem_append.mp he with he | he
    · exact reports_isTurnOf other _ event he
    · rcases List.mem_append.mp he with he | he
      · exact isTurnOf_of_kind (h.kind event he)
      · obtain rfl := List.mem_singleton.mp he
        simp [Event.isTurnOf, other]
  | goesOn due h =>
    rcases List.mem_append.mp he with he | he
    · exact reports_isTurnOf other _ event he
    · exact isTurnOf_of_kind (h.kind event he)

/-- The session of a diagram stays where it stands, and takes no turn. -/
structure Elsewhere (w w' : Workspace) (d : DiagramNo) : Prop where
  history : ∃ new, w'.history = new ++ w.history ∧ ∀ e ∈ new, e.event.isTurnOf d = false
  /-- The task ends only when it was aborted. -/
  task : ∀ (t : TaskNo) token p aborted ended,
    w.tasks[t]? = some ⟨.session d token p, aborted, ended⟩ → ∃ aborted' ended',
      w'.tasks[t]? = some ⟨.session d token p, aborted', ended'⟩ ∧
        (ended' = true → ended = true ∨ aborted = true)

/-- The session of a diagram takes a step of its own. -/
structure OwnStep (w : Workspace) (m : Move) (d : DiagramNo) (t : TaskNo) (p : SessionPoint)
    (new : List Event) (q : SessionPoint) (ended : Bool) : Prop where
  move : m = .step t
  runs : w.runs t (.session d [0] p)
  ready : w.isReady t = true
  step : SessionStep w d [0] p new q ended
  history : (w.move m).history = new.map (Entry.mk w.now) ++ w.history
  task : (w.move m).tasks[t]? = some ⟨.session d [0] q, false, ended⟩

theorem Sound.elsewhere (hw : Sound w) {m : Move}
    (none : ∀ (t : TaskNo) p, m = .step t → w.runs t (.session d [0] p) → w.isReady t = false) :
    Elsewhere w (w.move m) d := by
  -- A session that runs and is ready would take a step of its own.
  have idle {t : TaskNo} {token : Token} {p : SessionPoint} (hm : m = .step t)
      (ht : w.runs t (.session d token p)) (ready : w.isReady t = true) : False := by
    obtain ⟨rfl, -⟩ := hw.roster.session t d token (spawned_of_task ht)
    rw [none t p hm ht] at ready
    cases ready
  constructor
  · rcases move_aside w m with ⟨new, hn, aside⟩ | ⟨t, b, rfl, ht, work, ready⟩
    · exact ⟨new, hn, fun e he => isTurnOf_of_kind (kind_of_isAside (aside e he))⟩
    · cases b with
      | session e token p =>
        have other : e ≠ d := by
          rintro rfl
          exact idle rfl ht ready
        obtain ⟨new, q, ended, step, history, -⟩ := hw.step_session ht ready
        exact ⟨_, history, List.forall_mem_map.mpr (step.isTurnOf other)⟩
      | job r tag q =>
        obtain ⟨new, p, step, history, -⟩ := hw.step_job ht ready
        refine ⟨_, history, isTurnOf_mapped (fun e he => ?_) w.now⟩
        rcases List.mem_append.mp he with he | he
        · exact r.concludes_kind tag p e he
        · exact step.kind e he
      | _ => cases work
  · intro t token p aborted ended ht
    by_cases own : m = .step t
    · subst own
      show ∃ aborted' ended', (w.step t).tasks[t]? = _ ∧ _
      rcases step_cases w t with same | ⟨b, hb, dropped⟩ | ⟨b, hb, ready⟩
      · exact ⟨aborted, ended, by rw [same]; exact ht, .inl⟩
      · obtain ⟨rfl, rfl, rfl⟩ := Task.mk.inj (Option.some.inj (ht.symm.trans hb))
        exact ⟨true, true, by simp [dropped, drop, finish, modifyDiagram, hb], fun _ => .inr rfl⟩
      · obtain ⟨rfl, rfl, rfl⟩ := Task.mk.inj (Option.some.inj (ht.symm.trans hb))
        exact (idle rfl hb ready).elim
    · obtain ⟨aborted', ht'⟩ := hw.move_spares own _ ht
      exact ⟨aborted', ended, ht', .inl⟩

/-- The session of a diagram takes a step of its own, or it stays where it stands. -/
theorem Sound.session_cases (hw : Sound w) (d : DiagramNo) (m : Move) :
    (∃ t p new q ended, OwnStep w m d t p new q ended) ∨
      Elsewhere w (w.move m) d ∧
        ∀ (t : TaskNo) p, m = .step t → w.runs t (.session d [0] p) → w.isReady t = false := by
  by_cases own : ∃ (t : TaskNo) (p : SessionPoint),
      m = .step t ∧ w.runs t (.session d [0] p) ∧ w.isReady t = true
  · obtain ⟨t, p, rfl, ht, ready⟩ := own
    obtain ⟨new, q, ended, step, history, task⟩ := hw.step_session ht ready
    exact .inl ⟨t, p, new, q, ended, rfl, ht, ready, step, history, task⟩
  · have none (t : TaskNo) (p : SessionPoint) (hm : m = .step t)
        (ht : w.runs t (.session d [0] p)) : w.isReady t = false :=
      Bool.eq_false_iff.mpr fun ready => own ⟨t, p, hm, ht, ready⟩
    exact .inr ⟨hw.elsewhere none, none⟩

/-- A diagram comes with a session that has not started. -/
theorem Sound.session_opened (hw : Sound w) {m : Move} (hx : w.diagrams[d]? = none)
    {p : SessionPoint} {aborted ended : Bool}
    (ht : (w.move m).tasks[t]? = some ⟨.session d token p, aborted, ended⟩) :
    p = .starting ∧ ended = false := by
  rcases hw.task_before ht with ⟨y, hy, origin⟩ | ⟨-, new⟩
  · have spawned := spawned_of_task hy
    rw [origin] at spawned
    have opened := (hw.roster.session t d token spawned).2
    rw [List.getElem?_eq_getElem opened] at hx
    cases hx
  · exact ⟨(Activity.session.inj new.1).2.2, new.2⟩

end DiagramLinks
