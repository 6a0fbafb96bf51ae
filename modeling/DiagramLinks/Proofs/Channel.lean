import DiagramLinks.Proofs.SelectionMode

namespace DiagramLinks

open Workspace

variable {a : Author} {authors : List Author} {w w' : Workspace} {t : TaskNo} {d : DiagramNo}

/-- What a view shows of a history, the earliest first. -/
def seenIn {α : Type} (f : Event → Option α) (history : List Entry) : List α :=
  (history.filterMap fun entry => f entry.event).reverse

def Event.sent? (d : DiagramNo) : Event → Option DiagramEvent
  | .sent e event => if e = d then some event else none
  | _ => none

def Event.taken? (d : DiagramNo) : Event → Option DiagramEvent
  | .taken e event => if e = d then some event else none
  | _ => none

/-- The events that a diagram has sent. -/
def sentIn (d : DiagramNo) : List Entry → List DiagramEvent := seenIn (Event.sent? d)

/-- The events that the session of a diagram has taken. -/
def takenIn (d : DiagramNo) : List Entry → List DiagramEvent := seenIn (Event.taken? d)

section Views

variable {α : Type} {f : Event → Option α} {past new : List Entry}

theorem seenIn_cons (f : Event → Option α) (e : Entry) (past : List Entry) :
    seenIn f (e :: past) = seenIn f past ++ (f e.event).toList := by
  unfold seenIn
  cases h : f e.event <;> simp [h]

theorem seenIn_append (f : Event → Option α) (new past : List Entry) :
    seenIn f (new ++ past) = seenIn f past ++ seenIn f new := by
  simp [seenIn]

theorem seenIn_eq_nil (blind : ∀ e ∈ new, f e.event = none) : seenIn f new = [] := by
  simpa [seenIn] using blind

theorem seenIn_cons_of_blind {e : Entry} (blind : f e.event = none) :
    seenIn f (e :: past) = seenIn f past := by
  rw [seenIn_cons, blind, Option.toList_none, List.append_nil]

theorem seenIn_append_of_blind (blind : ∀ e ∈ new, f e.event = none) :
    seenIn f (new ++ past) = seenIn f past := by
  rw [seenIn_append, seenIn_eq_nil blind, List.append_nil]

theorem sent?_of_kind {e : Event} (h : e.kind ≠ .inbox) : e.sent? d = none := by
  unfold Event.sent?
  split
  · exact absurd rfl h
  · rfl

theorem taken?_of_kind {e : Event} (h : e.kind ≠ .session) : e.taken? d = none := by
  unfold Event.taken?
  split
  · exact absurd rfl h
  · rfl

end Views

theorem Change.sentIn_eq (h : Change a w w') (ha : a ≠ .host) :
    sentIn d w'.history = sentIn d w.history := by
  obtain ⟨new, hn, hr⟩ := h.history_eq
  rw [hn]
  refine seenIn_append_of_blind fun e he => sent?_of_kind fun kind => ?_
  have records := hr e he
  rw [kind] at records
  cases a <;> simp_all [Author.records]

theorem Change.takenIn_eq (h : Change a w w') (ha : a ≠ .task) :
    takenIn d w'.history = takenIn d w.history := by
  obtain ⟨new, hn, hr⟩ := h.history_eq
  rw [hn]
  refine seenIn_append_of_blind fun e he => taken?_of_kind fun kind => ?_
  have records := hr e he
  rw [kind] at records
  cases a <;> simp_all [Author.records]

/-- Each diagram has a session, which is aborted just when the diagram's scope is released. -/
def Owned (w : Workspace) : Prop :=
  ∀ (d : DiagramNo) x, w.diagrams[d]? = some x → ∃ t : TaskNo,
    w.roster[t]? = some (.session d [0] .starting, x.scope.isReleased) ∧
      (x.scope.isReleased = false → t ∈ x.scope.tracked)

theorem spawned_of_roster {b : Activity} {aborted : Bool} (h : w.roster[t]? = some (b, aborted)) :
    w.spawned[t]? = some b := by
  rw [spawned_eq_roster, List.getElem?_map, h]
  rfl

theorem roster_abort {tasks : List Task} {gone : List TaskNo} {b : Activity} {aborted : Bool}
    (ht : ∀ t : TaskNo, tasks[t]? = w.tasks[t]?.map fun task =>
      { task with aborted := task.aborted || gone.contains t })
    (h : w.roster[t]? = some (b, aborted)) :
    (tasks.map fun task => (task.activity.origin, task.aborted))[t]? =
      some (b, aborted || gone.contains t) := by
  simp only [roster, List.getElem?_map, Option.map_eq_some_iff, Prod.mk.injEq] at h
  obtain ⟨task, task_eq, rfl, rfl⟩ := h
  simp [ht, task_eq]

theorem DiagramChange.scope_eq {x x' : Diagram} (hw : Sound w) (h : DiagramChange w d x a x')
    (ha : a ≠ .service) :
    x'.scope.isReleased = x.scope.isReleased ∧ x'.scope.tracked = x.scope.tracked := by
  cases h with
  | endSession hr ending =>
    obtain ⟨rfl, -⟩ := hw.roster.session _ _ _ (spawned_of_task hr)
    exact ⟨rfl, rfl⟩
  | release => exact absurd rfl ha
  | _ => exact ⟨rfl, rfl⟩

namespace Owned

theorem service (h : Owned w) (hw : Sound w) (hc : Change .service w w') : Owned w' := by
  intro d x' hx'
  obtain ⟨x, hx, changed⟩ := hc.diagram_before (by simp) hx'
  obtain ⟨t, roster, tracked⟩ := h d x hx
  have spawned := spawned_of_roster roster
  cases hc with
  | release e =>
    obtain ⟨tasks, he, ht⟩ := releaseSession_eq w e
    refine ⟨t, ?_⟩
    simp only [he, Workspace.roster]
    rw [roster_abort ht roster]
    rw [he] at hx'
    simp only [List.getElem?_modify] at hx'
    by_cases same : e = d
    · subst same
      obtain rfl : { x with scope := x.scope.release.1 } = x' := by simpa [hx] using hx'
      refine ⟨?_, fun kept => by cases kept⟩
      -- The task was aborted before, or it is tracked and aborted now.
      have gone : (x.scope.isReleased || (w.tracked e).contains t) = true := by
        cases released : x.scope.isReleased with
        | true => rfl
        | false => simpa [Workspace.tracked, hx] using tracked released
      rw [gone]
      rfl
    · obtain rfl : x = x' := by simpa [hx, same] using hx'
      refine ⟨?_, tracked⟩
      have other : (w.tracked e).contains t = false := by
        apply Bool.eq_false_iff.mpr
        intro mem
        simp only [Workspace.tracked] at mem
        cases hy : w.diagrams[e]? with
        | none => simp [hy] at mem
        | some y =>
          have owner := hw.tracked e y hy t (by simpa [hy] using mem)
          rw [spawned] at owner
          exact same (Activity.session.inj (Option.some.inj owner)).1.symm
      rw [other, Bool.or_false]
  | endService =>
    obtain ⟨tasks, he, ht⟩ := endService_eq w
    rw [he] at hx'
    obtain rfl := Option.some.inj (hx.symm.trans hx')
    refine ⟨t, ?_, tracked⟩
    simp only [he, Workspace.roster]
    rw [roster_abort ht roster]
    -- The service itself owns the status indicator alone.
    have other : w.service.scope.tracked.contains t = false := by
      apply Bool.eq_false_iff.mpr
      intro mem
      have zero := hw.own t (by simpa using mem)
      have status := (hw.roster.status t [0]).mpr ⟨zero, rfl⟩
      rw [spawned] at status
      cases status
    rw [other, Bool.or_false]
  | _ =>
    obtain rfl := Option.some.inj (hx.symm.trans hx')
    exact ⟨t, roster, tracked⟩

theorem change (h : Owned w) (hw : Sound w) (hc : Change a w w') : Owned w' := by
  by_cases ha : a = .service
  · subst ha
    exact h.service hw hc
  have kept {t : TaskNo} {entry : Activity × Bool} (old : w.roster[t]? = some entry) :
      w'.roster[t]? = some entry := by
    rcases hc.roster_eq ha with same | ⟨b, -, born⟩
    · rw [same, old]
    · rw [born, List.getElem?_append_left (List.getElem?_eq_some_iff.mp old).1, old]
  intro d x' hx'
  by_cases ho : a = .opening
  · subst ho
    cases hc with
    | openDiagram id choice hasNode =>
      obtain ⟨stores, store, -, he⟩ := openDiagram_eq w id choice hasNode
      have hx'' := hx'
      rw [he] at hx''
      rcases getElem?_concat.mp hx'' with old | ⟨rfl, rfl⟩
      · obtain ⟨t, roster, tracked⟩ := h d x' old
        exact ⟨t, kept roster, tracked⟩
      · refine ⟨w.tasks.length, ?_, fun _ => List.mem_singleton_self _⟩
        rw [he]
        simp only [Workspace.roster, List.map_append, List.map_cons, List.map_nil]
        exact getElem?_concat.mpr (.inr ⟨by simp, rfl⟩)
  · obtain ⟨x, hx, changed⟩ := hc.diagram_before ho hx'
    obtain ⟨t, roster, tracked⟩ := h d x hx
    obtain ⟨released, same⟩ := changed.scope_eq hw ha
    exact ⟨t, by rw [released]; exact kept roster, by rw [released, same]; exact tracked⟩

theorem new (settings : Settings) (visible : List Url) (symbols : List Symbol) (conduct : Conduct) :
    Owned (.new settings visible symbols conduct) := by
  intro d x hx
  cases hx

theorem aborted_eq (h : Owned w) (hw : Sound w) {token : Token} {p : SessionPoint}
    {aborted ended : Bool} (ht : w.tasks[t]? = some ⟨.session d token p, aborted, ended⟩) :
    aborted = w.isClosed d := by
  have spawned := spawned_of_task ht
  obtain ⟨rfl, valid⟩ := hw.roster.session t d token spawned
  have hx := List.getElem?_eq_getElem valid
  obtain ⟨t', roster, -⟩ := h d _ hx
  obtain rfl := hw.roster.unique t t' d spawned (spawned_of_roster roster)
  have flag : w.roster[t]? = some (.session d [0] .starting, aborted) := by
    simp [Workspace.roster, ht, Activity.origin]
  rw [isClosed, hx]
  exact (Prod.mk.inj (Option.some.inj (flag.symm.trans roster))).2

end Owned

theorem Change.isClosed (h : Change a w w') {x : Diagram} (hx : w.diagrams[d]? = some x)
    (closed : w.isClosed d = true) : w'.isClosed d = true := by
  obtain ⟨x', hx', changed⟩ := h.diagram hx
  simp only [Workspace.isClosed, hx, hx', Option.map_some, Option.getD_some, Scope.isReleased]
    at closed ⊢
  cases changed with
  | endSession hr ending => simp_all [Scope.isCancelled, Scope.cancel]
  | release => simp [Scope.isCancelled, Scope.release, Scope.cancel, Scope.root]
  | _ => exact closed

/-- How the events of a diagram get to its session. -/
structure Channel (w : Workspace) (d : DiagramNo) (x : Diagram) : Prop where
  /-- What was not taken yet waits in the inbox. -/
  receives : x.receiving = true → sentIn d w.history = takenIn d w.history ++ x.inbox
  deaf : x.receiving = false → x.inbox = []
  sub : takenIn d w.history <+: sentIn d w.history
  /-- The session takes no more when it was closed, or when nothing is left and nothing can come. -/
  ending : x.receiving = false → x.scope.isReleased = true ∨
    x.sending = false ∧ sentIn d w.history = takenIn d w.history

/-- How the events of all diagrams get to their sessions. -/
structure Channels (w : Workspace) : Prop where
  opened : ∀ (d : DiagramNo) x, w.diagrams[d]? = some x → Channel w d x
  unopened : ∀ d : DiagramNo, w.diagrams[d]? = none →
    sentIn d w.history = [] ∧ takenIn d w.history = []

/-- What a change does to a channel. -/
inductive ChannelChange (w w' : Workspace) (d : DiagramNo) (x x' : Diagram) : Prop
  | same (inbox : x'.inbox = x.inbox) (receiving : x'.receiving = x.receiving)
      (sent : sentIn d w'.history = sentIn d w.history)
      (taken : takenIn d w'.history = takenIn d w.history)
  | take {e} (inbox : x.inbox = e :: x'.inbox) (receiving : x'.receiving = x.receiving)
      (sent : sentIn d w'.history = sentIn d w.history)
      (taken : takenIn d w'.history = takenIn d w.history ++ [e])
  | send {e} (inbox : x'.inbox = x.inbox ++ [e]) (before : x.receiving = true)
      (receiving : x'.receiving = true) (sent : sentIn d w'.history = sentIn d w.history ++ [e])
      (taken : takenIn d w'.history = takenIn d w.history)
  | stop (inbox : x'.inbox = []) (receiving : x'.receiving = false)
      (sent : sentIn d w'.history = sentIn d w.history)
      (taken : takenIn d w'.history = takenIn d w.history)
      (reason : x.receiving = false ∨ x.scope.isReleased = true ∨ x.inbox = [] ∧ x.sending = false)

/-- Changes to other diagrams do not matter. -/
theorem getElem?_modify_some {diagrams : List Diagram} {x x' : Diagram} {e : DiagramNo}
    {f : Diagram → Diagram} (hx : diagrams[d]? = some x)
    (hx' : (diagrams.modify e f)[d]? = some x') : e = d ∧ f x = x' ∨ e ≠ d ∧ x = x' := by
  by_cases same : e = d
  · exact .inl ⟨same, by simpa [same, hx] using hx'⟩
  · exact .inr ⟨same, by simpa [same, hx] using hx'⟩

theorem takenIn_taken (e d : DiagramNo) (time : Nat) (event : DiagramEvent) (past : List Entry) :
    takenIn d (⟨time, .taken e event⟩ :: past) =
      takenIn d past ++ if e = d then [event] else [] := by
  rw [takenIn, seenIn_cons]
  simp only [Event.taken?]
  split <;> rfl

theorem sentIn_sent (e d : DiagramNo) (time : Nat) (event : DiagramEvent) (past : List Entry) :
    sentIn d (⟨time, .sent e event⟩ :: past) =
      sentIn d past ++ if e = d then [event] else [] := by
  rw [sentIn, seenIn_cons]
  simp only [Event.sent?]
  split <;> rfl

theorem Change.channel_task (hw : Sound w) (closing : Closing w) (owned : Owned w)
    (h : Change .task w w') {x x' : Diagram} (hx : w.diagrams[d]? = some x)
    (hx' : w'.diagrams[d]? = some x') : ChannelChange w w' d x x' := by
  have sent : sentIn d w'.history = sentIn d w.history := h.sentIn_eq (by simp)
  have untaken {u : Workspace} (hu : u.history = w.history) :
      takenIn d u.history = takenIn d w.history := by rw [hu]
  cases h with
  | @take _ t e token bound diagram event rest ht hd going inbox known =>
    have taken := takenIn_taken e d w.now event w.history
    rcases getElem?_modify_some hx hx' with ⟨rfl, rfl⟩ | ⟨other, rfl⟩
    · obtain rfl := Option.some.inj (hd.symm.trans hx)
      exact .take inbox rfl sent (taken.trans (by rw [if_pos rfl]))
    · exact .same rfl rfl sent (taken.trans (by rw [if_neg other, List.append_nil]))
  | @bind _ t e token diagram rest ht hd going inbox =>
    have taken : takenIn d (w.bindMode t e token diagram.scope rest).history =
        takenIn d w.history ++ if e = d then [.ready] else [] := by
      refine Eq.trans ?_ (takenIn_taken e d w.now .ready w.history)
      exact seenIn_cons_of_blind rfl
    have modified : (w.bindMode t e token diagram.scope rest).diagrams = w.diagrams.modify e fun y =>
        { y with inbox := rest, scope := (diagram.scope.issue token).1 } :=
      (List.modify_modify_eq _ _ _ _).trans rfl
    rw [modified] at hx'
    rcases getElem?_modify_some hx hx' with ⟨rfl, rfl⟩ | ⟨other, rfl⟩
    · obtain rfl := Option.some.inj (hd.symm.trans hx)
      exact .take inbox rfl sent (taken.trans (by rw [if_pos rfl]))
    · exact .same rfl rfl sent (taken.trans (by rw [if_neg other, List.append_nil]))
  | handled e result =>
    obtain rfl := Option.some.inj (hx.symm.trans hx')
    exact .same rfl rfl sent (seenIn_cons_of_blind rfl)
  | @endSession _ t e token p ht ending =>
    rcases getElem?_modify_some hx hx' with ⟨rfl, rfl⟩ | ⟨other, rfl⟩
    · refine .stop rfl rfl sent (untaken rfl) ?_
      obtain ⟨rfl, -⟩ := hw.roster.session t e token (spawned_of_task ht)
      -- A token is cancelled by closing the session, or when the session has come to its end before.
      rcases ending x hx with cancelled | atEnd
      · rcases closing x (List.mem_of_getElem? hx) cancelled with released | atEnd
        · exact .inr (.inl released)
        · exact .inl (by simp_all [Diagram.isAtEnd])
      · exact .inr (.inr atEnd)
    · exact .same rfl rfl sent (untaken rfl)
  | dropSession ht =>
    rcases getElem?_modify_some hx hx' with ⟨rfl, rfl⟩ | ⟨other, rfl⟩
    · refine .stop rfl rfl sent (untaken rfl) (.inr (.inl ?_))
      have closed := owned.aborted_eq hw ht
      simpa [Workspace.isClosed, hx] using closed.symm
    · exact .same rfl rfl sent (untaken rfl)
  | _ =>
    obtain rfl := Option.some.inj (hx.symm.trans hx')
    exact .same rfl rfl sent (untaken rfl)

theorem Change.channel (hw : Sound w) (closing : Closing w) (owned : Owned w) (h : Change a w w')
    {x x' : Diagram} (hx : w.diagrams[d]? = some x) (hx' : w'.diagrams[d]? = some x') :
    ChannelChange w w' d x x' := by
  by_cases task : a = .task
  · subst task
    exact h.channel_task hw closing owned hx hx'
  have taken : takenIn d w'.history = takenIn d w.history := h.takenIn_eq task
  by_cases host : a = .host
  · subst host
    have unsent {u : Workspace} (hu : u.history = w.history) :
        sentIn d u.history = sentIn d w.history := by rw [hu]
    cases h with
    | @send _ e diagram event hd sending receiving =>
      have sent := sentIn_sent e d w.now event w.history
      rcases getElem?_modify_some hx hx' with ⟨rfl, rfl⟩ | ⟨other, rfl⟩
      · obtain rfl := Option.some.inj (hd.symm.trans hx)
        exact .send rfl receiving receiving (sent.trans (by rw [if_pos rfl])) taken
      · exact .same rfl rfl (sent.trans (by rw [if_neg other, List.append_nil])) taken
    | endEvents e =>
      rcases getElem?_modify_some hx hx' with ⟨rfl, rfl⟩ | ⟨other, rfl⟩
      · exact .same rfl rfl (unsent rfl) taken
      · exact .same rfl rfl (unsent rfl) taken
    | setNode e hasNode =>
      rcases getElem?_modify_some hx hx' with ⟨rfl, rfl⟩ | ⟨other, rfl⟩
      · exact .same rfl rfl (unsent rfl) taken
      · exact .same rfl rfl (unsent rfl) taken
    | _ =>
      obtain rfl := Option.some.inj (hx.symm.trans hx')
      exact .same rfl rfl (unsent rfl) taken
  · have sent : sentIn d w'.history = sentIn d w.history := h.sentIn_eq host
    obtain ⟨x'', hx'', changed⟩ := h.diagram hx
    obtain rfl := Option.some.inj (hx'.symm.trans hx'')
    cases changed with
    | same => exact .same rfl rfl sent taken
    | release => exact .same rfl rfl sent taken
    | _ => first | exact absurd rfl task | exact absurd rfl host

/-- Nobody goes back to sending or takes back a release. -/
theorem DiagramChange.forward {x x' : Diagram} (h : DiagramChange w d x a x') :
    (x.sending = false → x'.sending = false) ∧
      (x.scope.isReleased = true → x'.scope.isReleased = true) := by
  cases h with
  | endSession hr ending =>
    exact ⟨id, fun released => by simp_all [Scope.isReleased, Scope.isCancelled, Scope.cancel]⟩
  | endEvents => exact ⟨fun _ => rfl, id⟩
  | release => exact ⟨id, fun _ => by simp [Scope.isReleased, Scope.isCancelled, Scope.release,
      Scope.cancel, Scope.root]⟩
  | _ => exact ⟨id, id⟩

theorem Channel.change {x x' : Diagram} (h : Channel w d x) (hc : Change a w w')
    (changed : ChannelChange w w' d x x') (hx : w.diagrams[d]? = some x)
    (hx' : w'.diagrams[d]? = some x') : Channel w' d x' := by
  obtain ⟨x'', hx'', moved⟩ := hc.diagram hx
  obtain rfl := Option.some.inj (hx'.symm.trans hx'')
  obtain ⟨sending, released⟩ := moved.forward
  cases changed with
  | same inbox receiving sent taken =>
    constructor
    · rw [sent, taken, inbox, receiving]
      exact h.receives
    · rw [inbox, receiving]
      exact h.deaf
    · rw [sent, taken]
      exact h.sub
    · rw [sent, taken, receiving]
      exact fun deaf => (h.ending deaf).imp released fun ⟨off, eq⟩ => ⟨sending off, eq⟩
  | @take e inbox receiving sent taken =>
    -- A session that does not listen has nothing in its inbox to take.
    have listens : x.receiving = true := by
      apply Bool.of_not_eq_false
      intro off
      rw [h.deaf off] at inbox
      cases inbox
    have eq := h.receives listens
    rw [inbox] at eq
    have split : sentIn d w.history = (takenIn d w.history ++ [e]) ++ x'.inbox := by
      rw [eq, List.append_assoc]
      rfl
    constructor
    · intro _
      rw [sent, taken, split]
    · simp [receiving, listens]
    · rw [sent, taken, split]
      exact List.prefix_append _ _
    · simp [receiving, listens]
  | @send e inbox before receiving sent taken =>
    have eq := h.receives before
    constructor
    · intro _
      rw [sent, taken, inbox, eq, List.append_assoc]
    · simp [receiving]
    · rw [sent, taken]
      exact h.sub.trans (List.prefix_append _ _)
    · simp [receiving]
  | stop inbox receiving sent taken reason =>
    constructor
    · simp [receiving]
    · exact fun _ => inbox
    · rw [sent, taken]
      exact h.sub
    · intro _
      rw [sent, taken]
      -- It stopped before, was closed, or came to the end of what was sent.
      rcases reason with deaf | closed | ⟨empty, off⟩
      · exact (h.ending deaf).imp released fun ⟨off, eq⟩ => ⟨sending off, eq⟩
      · exact .inl (released closed)
      · cases listens : x.receiving with
        | true => exact .inr ⟨sending off, by rw [h.receives listens, empty, List.append_nil]⟩
        | false => exact (h.ending listens).imp released fun ⟨off, eq⟩ => ⟨sending off, eq⟩

/-- What holds of sessions and their channels in every workspace that a run reaches. -/
structure Served (w : Workspace) : Prop where
  sound : Sound w
  closing : Closing w
  owned : Owned w
  channels : Channels w

namespace Served

theorem channel_born {x' : Diagram} (h : Served w) (hc : Change a w w') (hx : w.diagrams[d]? = none)
    (hx' : w'.diagrams[d]? = some x') : Channel w' d x' := by
  by_cases ha : a = .opening
  · subst ha
    obtain ⟨sent, taken⟩ := h.channels.unopened d hx
    have sent' := (hc.sentIn_eq (d := d) (by simp)).trans sent
    have taken' := (hc.takenIn_eq (d := d) (by simp)).trans taken
    cases hc with
    | openDiagram id choice hasNode =>
      obtain ⟨stores, store, -, he⟩ := openDiagram_eq w id choice hasNode
      have hx'' := hx'
      rw [he] at hx''
      rcases getElem?_concat.mp hx'' with old | ⟨rfl, rfl⟩
      · rw [old] at hx
        cases hx
      · constructor
        · intro _
          rw [sent', taken']
          rfl
        · simp
        · simp [taken']
        · simp
  · obtain ⟨x, hx'', -⟩ := hc.diagram_before ha hx'
    rw [hx''] at hx
    cases hx

/-- Before a diagram is opened nothing is sent on its channel. -/
theorem unsent (h : Served w) (hc : Change a w w') (hx : w.diagrams[d]? = none) :
    sentIn d w'.history = [] := by
  have sent := (h.channels.unopened d hx).1
  by_cases ha : a = .host
  · subst ha
    cases hc with
    | @send _ e x event hd sending receiving =>
      have ne : e ≠ d := by
        rintro rfl
        rw [hx] at hd
        cases hd
      refine (sentIn_sent e d w.now event w.history).trans ?_
      rw [if_neg ne, List.append_nil, sent]
    | _ => exact sent
  · rw [hc.sentIn_eq ha, sent]

theorem untaken (h : Served w) (hc : Change a w w') (hx : w.diagrams[d]? = none) :
    takenIn d w'.history = [] := by
  have taken := (h.channels.unopened d hx).2
  by_cases ha : a = .task
  · subst ha
    have unknown {t : TaskNo} {e : DiagramNo} {y : Diagram} (hd : w.diagrams[e]? = some y) :
        e ≠ d := by
      rintro rfl
      rw [hx] at hd
      cases hd
    cases hc with
    | @take _ t e token bound diagram event rest ht hd going inbox known =>
      refine (takenIn_taken e d w.now event w.history).trans ?_
      rw [if_neg (unknown (t := t) hd), List.append_nil, taken]
    | @bind _ t e token diagram rest ht hd going inbox =>
      refine Eq.trans ?_ taken
      exact (seenIn_cons_of_blind rfl).trans
        (seenIn_cons_of_blind (by simp [Event.taken?, unknown (t := t) hd]))
    | handled e result => exact (seenIn_cons_of_blind rfl).trans taken
    | _ => exact taken
  · rw [hc.takenIn_eq ha, taken]

theorem channels_change (h : Served w) (hc : Change a w w') : Channels w' := by
  constructor
  · intro d x' hx'
    cases hx : w.diagrams[d]? with
    | none => exact h.channel_born hc hx hx'
    | some x =>
      exact (h.channels.opened d x hx).change hc (hc.channel h.sound h.closing h.owned hx hx') hx hx'
  · intro d hx'
    have hx : w.diagrams[d]? = none := by
      cases hx : w.diagrams[d]? with
      | none => rfl
      | some x =>
        obtain ⟨x', new, -⟩ := hc.diagram hx
        rw [new] at hx'
        cases hx'
    exact ⟨h.unsent hc hx, h.untaken hc hx⟩

theorem change (h : Served w) (hc : Change a w w') : Served w' where
  sound := h.sound.change hc
  closing := h.closing.change h.sound hc
  owned := h.owned.change h.sound hc
  channels := h.channels_change hc

theorem chain (h : Served w) (hc : Chain authors w w') : Served w' :=
  hc.keeps h fun _ _ _ _ hu h' => hu.change h'

theorem move (h : Served w) (m : Move) : Served (w.move m) :=
  h.chain (h.sound.move_chain m)

/-- What every move keeps, a run keeps. -/
theorem keeps_run {P : Workspace → Prop} (h : Served w) (hp : P w)
    (step : ∀ {u} m, Served u → P u → P (u.move m)) (moves : List Move) : P (w.run moves) := by
  induction moves generalizing w with
  | nil => exact hp
  | cons m moves ih => exact ih (h.move m) (step m h hp)

theorem run (h : Served w) (moves : List Move) : Served (w.run moves) :=
  h.keeps_run h (fun m hu _ => hu.move m) moves

theorem new (settings : Settings) (visible : List Url) (symbols : List Symbol) (conduct : Conduct) :
    Served (.new settings visible symbols conduct) where
  sound := .new settings visible symbols conduct
  closing _ hx := absurd hx List.not_mem_nil
  owned := .new settings visible symbols conduct
  channels := ⟨fun _ _ hx => (nomatch hx), fun _ _ => ⟨rfl, rfl⟩⟩

end Served

end DiagramLinks
