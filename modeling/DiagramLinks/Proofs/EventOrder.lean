import DiagramLinks.Proofs.Turns

namespace DiagramLinks

open Workspace

variable {w : Workspace} {t : TaskNo} {d : DiagramNo} {m : Move} {symbols : List Symbol}
  {past : List Entry} {e : DiagramEvent} {node : NodeSelection}

/-- How many steps a task takes in a run. -/
def Workspace.stepsOf (w : Workspace) (t : TaskNo) : List Move → Nat
  | [] => 0
  | m :: more =>
    (match m with
      | .step s => if s = t ∧ w.isReady t = true then 1 else 0
      | _ => 0) + (w.move m).stepsOf t more

/-- How the events of a diagram are handled. -/
structure HandlesInOrder (w : Workspace) (d : DiagramNo) : Prop where
  /-- The events that were handled are the first ones that were sent. -/
  ordered : handledIn d w.history <+: sentIn d w.history
  /-- An event is taken only when all that were taken before it are handled. -/
  oneAtATime : ∀ past time e, ⟨time, .taken d e⟩ :: past <:+ w.history →
    handledIn d past = takenIn d past
  /-- The event that was taken last is handled when it has shown its highlight or its error. -/
  complete : ∀ past time result, ⟨time, .handled d result⟩ :: past <:+ w.history →
    ∃ e, takenIn d past = handledIn d past ++ [e] ∧ Concludes w.symbols d e result past
  /-- Nothing is to do only for `ready`, while the diagram is not activated, and for a node with neither
  a link nor a tag. -/
  atOnce : ∀ m time time' e,
    (w.move m).history = ⟨time, .handled d (.ok ())⟩ :: ⟨time', .taken d e⟩ :: w.history →
      e = .ready ∨ ∃ node, e = .selected node ∧
        (w.isActivated d = false ∨ node.link = none ∧ Symbol.tag? node.label = none)
  /-- Whatever the result of an event is, the session waits for the next one. -/
  goesOn : ∀ m, resultsIn d (w.move m).history ≠ resultsIn d w.history →
    ∃ t bound, (w.move m).runs t (.session d [0] (.idle bound))
  /-- A session that was not closed ends when its diagram sends no more, after the last event. -/
  ends : ∀ (t : TaskNo) token p aborted,
    w.tasks[t]? = some ⟨.session d token p, aborted, true⟩ → w.isClosed d = true ∨
      w.isSending d = false ∧ handledIn d w.history = sentIn d w.history
  /-- When all tasks wait and no call of the session is in flight, every event is handled, and the
  session has ended if its diagram sends no more. -/
  settled : (∀ t, w.isReady t = false) →
    (∀ t token bound p, ¬ w.runs t (.session d token (.handling bound p))) → w.isClosed d = false →
      handledIn d w.history = sentIn d w.history ∧ (w.isSending d = false →
        ∃ (t : TaskNo) (token : Token) (p : SessionPoint),
          w.tasks[t]? = some ⟨.session d token p, false, true⟩)
  /-- Whatever happens in between, four steps of the session for each event and one to start are enough
  to handle all that was sent, unless the session is closed. -/
  served : ∀ (t : TaskNo) token p aborted ended more,
    w.tasks[t]? = some ⟨.session d token p, aborted, ended⟩ →
      4 * ((sentIn d w.history).length - (handledIn d w.history).length) + 1 ≤ w.stepsOf t more →
        (w.run more).isClosed d = true ∨ sentIn d w.history <+: handledIn d (w.run more).history

/-- How many steps are left until an activity that rests in a call has revealed what it looks for. -/
def Await.left : Await → Nat
  | searching _ _ => 3
  | opening _ _ => 2
  | showing _ _ => 1
  | _ => 0

/-- How many steps are left at most until a session waits for the next event. -/
def SessionPoint.left : SessionPoint → Nat
  | starting => 1
  | idle _ => 0
  | handling _ q => q.await.left

/-- How many steps a session needs at most to be through with the first `n` events. -/
def remaining (n : Nat) (d : DiagramNo) (history : List Entry) (p : SessionPoint) : Nat :=
  4 * (n - (takenIn d history).length) + p.left

theorem Await.Fits.left_pos {a : Await} (h : a.Fits symbols node) : 0 < a.left := by
  cases h <;> simp [Await.left]

theorem Await.Fits.left_le {a : Await} (h : a.Fits symbols node) : a.left ≤ 3 := by
  cases h <;> simp [Await.left]

theorem Handles.left {events : List Event} {p : Progress} (h : Handles w d node events p)
    (bound : Bool) : (p.sessionPoint bound).left ≤ 3 := by
  cases h <;> simp [Progress.sessionPoint, SessionPoint.left, Await.left, pending]

theorem Answers.left {a : Await} {events : List Event} {p : Progress} (h : Answers w a events p)
    (fits : a.Fits w.symbols node) (bound : Bool) : (p.sessionPoint bound).left < a.left := by
  cases h with
  | fails a problem => exact fits.left_pos
  | asks selected => cases fits
  | attaches hd => cases fits
  | stores d activated => cases fits
  | _ => simp [Progress.sessionPoint, SessionPoint.left, Await.left, pending]

theorem taken?_of_isTelling {e : Event} (telling : e.isTelling = true) : e.taken? d = none := by
  unfold Event.taken?
  split
  · cases telling
  · rfl

theorem takenIn_reports (p : Progress) (n : Nat) :
    takenIn d ((w.reports d p).map (Entry.mk n) ++ past) = takenIn d past :=
  seenIn_append_of_blind <|
    List.forall_mem_map.mpr fun e he => taken?_of_isTelling (isTelling_of_reports p e he)

theorem takenIn_map {events : List Event} (kinds : ∀ e ∈ events, e.kind ≠ .session) (n : Nat) :
    takenIn d (events.map (Entry.mk n) ++ past) = takenIn d past :=
  takenIn_append (isTurnOf_mapped kinds n)

theorem Served.taken_sent (hs : Served w) : takenIn d w.history <+: sentIn d w.history := by
  cases hx : w.diagrams[d]? with
  | some x => exact (hs.channels.opened d x hx).sub
  | none =>
    obtain ⟨-, taken⟩ := hs.channels.unopened d hx
    rw [taken]
    exact List.nil_prefix

theorem Served.handled_sent (hs : Served w) : handledIn d w.history <+: sentIn d w.history :=
  (List.take_prefix _ _).trans hs.taken_sent

namespace InOrder

variable {sent : List DiagramEvent}

/-- While something of what was sent is not handled, every step of the session brings it nearer. -/
theorem nearer {p q : SessionPoint} {events : List Event} {ended : Bool} (h : InOrder w d)
    (hs : Served w) (step : OwnStep w m d t p events q ended) (isOpen : w.isClosed d = false)
    (sub : sent <+: sentIn d w.history) (open' : (handledIn d w.history).length < sent.length) :
    remaining sent.length d (w.move m).history q < remaining sent.length d w.history p := by
  have stage := h.stage t _ p _ _ step.runs
  have le := sub.length_le
  unfold remaining
  rw [step.history]
  cases step.step with
  | @starts x hd =>
    have same : takenIn d ([.noted (.sessionOpened x.id)].map (Entry.mk w.now) ++ w.history) =
        takenIn d w.history := seenIn_cons_of_blind rfl
    rw [same]
    exact Nat.lt_succ_self _
  | ends hd ending =>
    cases stage with
    | idle bound even =>
      -- There is something left to take, so this is not the end.
      rcases hs.ending hd ending with closed | ⟨-, eq⟩
      · rw [isOpen] at closed
        cases closed
      · rw [handledIn_of_even even] at open'
        rw [eq] at le
        omega
  | readies hd inbox going =>
    cases stage with
    | idle bound even =>
      rw [handledIn_of_even even] at open'
      have taken : takenIn d ([Event.handled d (.ok ()), .taken d .ready].map (Entry.mk w.now) ++
          w.history) = takenIn d w.history ++ [.ready] :=
        (takenIn_handled d w.now _).trans (Pends.take even w.now .ready).taken
      rw [taken, List.length_append, List.length_singleton]
      simp only [SessionPoint.left]
      omega
  | @takes bound x node rest new p hd inbox going handles =>
    cases stage with
    | idle bound even =>
      rw [handledIn_of_even even] at open'
      have taken : takenIn d ((w.reports d p ++ (new ++ [Event.taken d (.selected node)])).map
          (Entry.mk w.now) ++ w.history) = takenIn d w.history ++ [.selected node] := by
        rw [List.map_append, List.append_assoc, takenIn_reports, List.map_append, List.append_assoc,
          takenIn_map handles.kind]
        exact (Pends.take even w.now _).taken
      rw [taken, List.length_append, List.length_singleton]
      have left := handles.left bound
      simp only [SessionPoint.left] at left ⊢
      omega
  | @goesOn bound q new p due answers =>
    cases stage with
    | handling bound pends fits =>
      have taken : takenIn d ((w.reports d p ++ new).map (Entry.mk w.now) ++ w.history) =
          takenIn d w.history := by
        rw [List.map_append, List.append_assoc, takenIn_reports, takenIn_map answers.kind]
      rw [taken]
      exact Nat.add_lt_add_left (answers.left fits bound) _

theorem stepsOf_elsewhere {token : Token} {p : SessionPoint} {aborted ended : Bool} (hs : Served w)
    (ht : w.tasks[t]? = some ⟨.session d token p, aborted, ended⟩) (isOpen : w.isClosed d = false)
    (none : ∀ (t : TaskNo) p, m = .step t → w.runs t (.session d [0] p) → w.isReady t = false)
    (more : List Move) : w.stepsOf t (m :: more) = (w.move m).stepsOf t more := by
  cases m with
  | step s =>
    have idle : ¬ (s = t ∧ w.isReady t = true) := by
      rintro ⟨rfl, ready⟩
      obtain rfl : ended = false := by
        simp only [isReady, ht, Bool.and_eq_true] at ready
        simpa using ready.1
      obtain rfl : aborted = false := (hs.owned.aborted_eq hs.sound ht).trans isOpen
      obtain ⟨rfl, -⟩ := hs.opened ht
      rw [none s p rfl ht] at ready
      cases ready
    simp [stepsOf, idle]
  | _ => simp [stepsOf]

/-- When no step is left that a session needs, it is through with what was sent. -/
theorem through_of_remaining {token : Token} {p : SessionPoint} {aborted ended : Bool}
    (h : InOrder w d) (ht : w.tasks[t]? = some ⟨.session d token p, aborted, ended⟩) {n : Nat}
    (none : remaining n d w.history p = 0) : n ≤ (handledIn d w.history).length := by
  have stage := h.stage t token p aborted ended ht
  unfold remaining at none
  cases stage with
  | starting even => simp [SessionPoint.left] at none
  | idle bound even =>
    rw [handledIn_of_even even]
    omega
  | handling bound pends fits =>
    have left := fits.left_pos
    simp only [SessionPoint.left] at none
    omega

theorem serves (h : InOrder w d) (hs : Served w) {token : Token} {p : SessionPoint}
    {aborted ended : Bool} (ht : w.tasks[t]? = some ⟨.session d token p, aborted, ended⟩)
    (sub : sent <+: sentIn d w.history) (more : List Move)
    (enough : remaining sent.length d w.history p ≤ w.stepsOf t more) :
    (w.run more).isClosed d = true ∨ sent <+: handledIn d (w.run more).history := by
  -- What was handled is compared with what was sent by its length alone.
  have served {u : Workspace} (hu : Served u) (sub : sent <+: sentIn d u.history)
      (le : sent.length ≤ (handledIn d u.history).length) : sent <+: handledIn d u.history :=
    List.prefix_of_prefix_length_le sub hu.handled_sent le
  induction more generalizing w token p aborted ended with
  | nil => exact .inr (served hs sub (h.through_of_remaining ht (Nat.le_zero.mp enough)))
  | cons m more ih =>
    obtain ⟨-, x, hx⟩ := hs.opened ht
    have later := hs.move m
    obtain ⟨new, hn, -⟩ := (hs.sound.move_chain m).history_eq
    have sub' : sent <+: sentIn d (w.move m).history := by
      rw [hn, sentIn, seenIn_append]
      exact sub.trans (List.prefix_append _ _)
    rcases hs.sound.session_cases d m with ⟨s, q, events, q', ended', step⟩ | ⟨elsewhere, none⟩
    · obtain rfl := hs.sound.session_unique ht step.runs
      obtain ⟨hp, rfl, rfl⟩ := Task.mk.inj (Option.some.inj (ht.symm.trans step.runs))
      obtain ⟨-, rfl, rfl⟩ := Activity.session.inj hp
      by_cases done : sent.length ≤ (handledIn d w.history).length
      · -- Nothing that was handled is lost.
        have now := served hs sub done
        refine .inr (now.trans (handledIn_grows ?_))
        exact hs.sound.run_suffix (m :: more)
      · have isOpen : w.isClosed d = false := by
          rw [← hs.owned.aborted_eq hs.sound ht]
        have less := h.nearer hs step isOpen sub (Nat.lt_of_not_le done)
        have counted : w.stepsOf t (m :: more) = 1 + (w.move m).stepsOf t more := by
          rw [step.move]
          simp [stepsOf, step.ready]
        exact ih (h.move hs m) later step.task sub' (by omega)
    · by_cases closed : w.isClosed d = true
      · exact .inl (hs.sound.run_isClosed (m :: more) hx closed)
      have isOpen := Bool.eq_false_iff.mpr closed
      obtain ⟨aborted', ended', ht', -⟩ := elsewhere.task t token p aborted ended ht
      have same : takenIn d (w.move m).history = takenIn d w.history := by
        obtain ⟨new, hn, quiet⟩ := elsewhere.history
        rw [hn, takenIn_append quiet]
      refine ih (h.move hs m) later ht' sub' ?_
      rw [remaining, same, ← stepsOf_elsewhere hs ht isOpen none more]
      exact enough

/-- A session that handles an event at once had nothing to do. -/
theorem nothing_to_do (hs : Served w) {time time' : Nat}
    (eq : (w.move m).history = ⟨time, .handled d (.ok ())⟩ :: ⟨time', .taken d e⟩ :: w.history) :
    e = .ready ∨ ∃ node, e = .selected node ∧
      (w.isActivated d = false ∨ node.link = none ∧ Symbol.tag? node.label = none) := by
  have turn : (Event.taken d e).isTurnOf d = true := by simp [Event.isTurnOf]
  rcases hs.sound.session_cases d m with ⟨t, p, events, q, ended, step⟩ | ⟨elsewhere, -⟩
  · have events_eq : events.map (Entry.mk w.now) =
        [⟨time, .handled d (.ok ())⟩, ⟨time', .taken d e⟩] :=
      List.append_cancel_right (step.history.symm.trans eq)
    have events_eq : events = [.handled d (.ok ()), .taken d e] := by
      have views := congrArg (List.map Entry.event) events_eq
      simpa [Function.comp_def] using views
    -- Both entries come from one step, so the session took the event and was through with it at once.
    cases step.step with
    | starts hd => cases events_eq
    | ends hd ending => cases events_eq
    | readies hd inbox going =>
      cases events_eq
      exact .inl rfl
    | @takes bound x node rest new p hd inbox going handles =>
      cases handles with
      | ignores reason =>
        cases events_eq
        exact .inr ⟨node, rfl, reason⟩
      | malformed link bad => cases events_eq
      | follows link good => cases events_eq
      | searches link tag => cases events_eq
    | @goesOn bound q new p due answers =>
      have mem : Event.taken d e ∈ w.reports d p ++ new := by
        rw [events_eq]
        simp
      rcases List.mem_append.mp mem with reported | answered
      · cases isTelling_of_reports p _ reported
      · exact absurd rfl (answers.kind _ answered)
  · obtain ⟨new, hn, quiet⟩ := elsewhere.history
    have new_eq : new = [⟨time, .handled d (.ok ())⟩, ⟨time', .taken d e⟩] :=
      List.append_cancel_right (hn.symm.trans eq)
    have off := quiet ⟨time', .taken d e⟩ (by simp [new_eq])
    rw [turn] at off
    cases off

theorem idle_after (hs : Served w) (m : Move)
    (ne : resultsIn d (w.move m).history ≠ resultsIn d w.history) :
    ∃ t bound, (w.move m).runs t (.session d [0] (.idle bound)) := by
  rcases hs.sound.session_cases d m with ⟨t, p, events, q, ended, step⟩ | ⟨elsewhere, -⟩
  · have task := step.task
    have quiet (kinds : ∀ e ∈ events, e.kind ≠ .session) : False := by
      apply ne
      rw [step.history]
      exact resultsIn_append (isTurnOf_mapped kinds w.now)
    -- Only a session that is through with its event records a result.
    have through {bound : Bool} {p : Progress}
        (task : (w.move m).runs t (.session d [0] (p.sessionPoint bound)))
        (waits : ∀ q, p ≠ .waiting q) : ∃ t bound, (w.move m).runs t (.session d [0] (.idle bound)) := by
      cases p with
      | waiting q => exact absurd rfl (waits q)
      | _ => exact ⟨t, bound, task⟩
    cases step.step with
    | starts hd => exact (quiet (by simp [Event.kind])).elim
    | ends hd ending => exact (quiet (by simp)).elim
    | readies hd inbox going => exact ⟨t, true, task⟩
    | @takes bound x node rest new p hd inbox going handles =>
      refine through task ?_
      rintro q rfl
      apply ne
      rw [step.history]
      show resultsIn d ((new ++ [Event.taken d _]).map (Entry.mk w.now) ++ w.history) = _
      rw [List.map_append, List.append_assoc]
      exact (resultsIn_append (isTurnOf_mapped handles.kind w.now)).trans (resultsIn_taken d w.now _)
    | goesOn due answers =>
      refine through task ?_
      rintro q rfl
      exact quiet answers.kind
  · obtain ⟨new, hn, quiet⟩ := elsewhere.history
    rw [hn, resultsIn_append quiet] at ne
    exact absurd rfl ne

/-- A session that waits, rests in no call and was not closed has handled all that was sent. -/
theorem settled (h : InOrder w d) (hs : Served w) (waits : ∀ t, w.isReady t = false)
    (idle : ∀ t token bound p, ¬ w.runs t (.session d token (.handling bound p)))
    (isOpen : w.isClosed d = false) :
    handledIn d w.history = sentIn d w.history ∧ (w.isSending d = false →
      ∃ (t : TaskNo) (token : Token) (p : SessionPoint),
        w.tasks[t]? = some ⟨.session d token p, false, true⟩) := by
  cases hx : w.diagrams[d]? with
  | none => simp [isClosed, hx] at isOpen
  | some x =>
    obtain ⟨t, p, ended, ht⟩ := hs.session hx
    rw [isOpen] at ht
    have stage := h.stage t _ p _ _ ht
    cases ended with
    | true =>
      rcases h.ended t _ p _ ht with closed | ⟨⟨bound, rfl⟩, off, eq⟩
      · rw [isOpen] at closed
        cases closed
      · cases stage with
        | idle bound even => exact ⟨(handledIn_of_even even).trans eq.symm, fun _ => ⟨t, _, _, ht⟩⟩
    | false =>
      have waiting := waits t
      simp only [isReady, ht, Bool.not_false, Bool.true_and, Bool.false_or] at waiting
      cases stage with
      | starting even => cases waiting
      | handling bound pends fits => exact absurd ht (idle t _ _ _)
      | idle bound even =>
        simp only [canRun, hx, Option.map_some, Option.getD_some, Bool.or_eq_false_iff,
          Bool.not_eq_false', List.isEmpty_iff] at waiting
        -- An idle session that waits has an empty queue, and its diagram may still send.
        obtain ⟨⟨-, empty⟩, sending⟩ := waiting
        have channel := hs.channels.opened d x hx
        refine ⟨(handledIn_of_even even).trans ?_, fun off => ?_⟩
        · cases listens : x.receiving with
          | true => rw [channel.receives listens, empty, List.append_nil]
          | false =>
            rcases channel.ending listens with released | ⟨off, -⟩
            · simp [isClosed, hx, released] at isOpen
            · rw [sending] at off
              cases off
        · simp [isSending, hx, sending] at off

theorem handlesInOrder (h : InOrder w d) (hs : Served w) : HandlesInOrder w d where
  ordered := hs.handled_sent
  oneAtATime := h.orderly.oneAtATime
  complete := h.orderly.complete
  atOnce _ _ _ _ eq := nothing_to_do hs eq
  goesOn m ne := idle_after hs m ne
  ends t token p aborted ht := by
    refine (h.ended t token p aborted ht).imp_right ?_
    rintro ⟨⟨bound, rfl⟩, off, eq⟩
    refine ⟨off, ?_⟩
    cases h.stage t token _ aborted true ht with
    | idle bound even => exact (handledIn_of_even even).trans eq.symm
  settled := h.settled hs
  served t token p aborted ended more ht enough := by
    refine h.serves hs ht List.prefix_rfl more (Nat.le_trans ?_ enough)
    -- An event that is being handled was taken, and is within four steps of its end.
    unfold remaining
    cases h.stage t token p aborted ended ht with
    | starting even => simp [handledIn_of_even even, SessionPoint.left]
    | idle bound even => simp [handledIn_of_even even, SessionPoint.left]
    | @handling bound q before node pends fits =>
      have left := fits.left_le
      have sub := (hs.taken_sent (d := d)).length_le
      rw [pends.taken, List.length_append, List.length_singleton] at sub ⊢
      rw [pends.handled]
      simp only [SessionPoint.left]
      omega

end InOrder

/-- In every run, however the moves of others interleave, each session handles the events of its diagram
in their order, one at a time. -/
theorem run_handlesInOrder (settings : Settings) (visible : List Url) (symbols : List Symbol)
    (conduct : Conduct) (moves : List Move) (d : DiagramNo) :
    HandlesInOrder ((Workspace.new settings visible symbols conduct).run moves) d := by
  have start := Served.new settings visible symbols conduct
  have order := (InOrder.new settings visible symbols conduct).run (d := d) start moves
  exact order.handlesInOrder (start.run moves)

end DiagramLinks
