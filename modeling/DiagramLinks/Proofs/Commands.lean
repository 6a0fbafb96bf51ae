import DiagramLinks.Proofs.ClosedSession

namespace DiagramLinks

open Workspace

variable {w w' u : Workspace} {t : TaskNo} {d : DiagramNo} {m : Move}

/-- The command that an event gives to a diagram. -/
def Event.command? (d : DiagramNo) : Event → Option Call
  | .called (.setSelectionMode e enabled) => if e = d then some (.setSelectionMode e enabled) else none
  | .called (.attachLink e link) => if e = d then some (.attachLink e link) else none
  | _ => none

/-- The commands that a diagram was given. -/
def commandsTo (d : DiagramNo) : List Entry → List Call := seenIn (Event.command? d)

/-- The activities that call a diagram though its session has stopped, and with what. -/
inductive StillCalls (w : Workspace) (d : DiagramNo) : Activity → Call → Prop
  /-- A binding that has not looked at anything yet. -/
  | binding (token : Token) :
      StillCalls w d (.selectionMode d token .starting) (.setSelectionMode d (w.isActivated d))
  /-- An action that asked for the selected node before. -/
  | action {l} (r : Request) (tag : Option String) (due : Nat) (selected : w.selectedLocation = .ok l) :
      StillCalls w d (.job r tag (.waiting ⟨.askingNode d, due⟩)) (Await.attaching d l).call
  /-- A request that names the diagram itself. -/
  | direct (l : Location) (tag : Option String) :
      StillCalls w d (.job (.linkLocation d l) tag .starting) (Await.attaching d l).call

/-- Whether an activity links to a diagram without asking the service for it. -/
def Activity.isDirectLink (d : DiagramNo) : Activity → Bool
  | .job (.linkLocation e _) _ .starting => e == d
  | _ => false

/-- What a diagram that was closed in `w` hears of a move that comes later, in `u`: nothing, or one command
of an activity that had set out before it was closed, and that does not call it again. -/
def HearsLate (w u : Workspace) (d : DiagramNo) (m : Move) : Prop :=
  commandsTo d (u.move m).history = commandsTo d u.history ∨
    ∃ t b c, m = .step t ∧ u.runs t b ∧ StillCalls u d b c ∧
      (w.runs t b ∨ b.isDirectLink d = true) ∧
      commandsTo d (u.move m).history = commandsTo d u.history ++ [c] ∧
      ∀ v b' c', (u.move m).runs t b' → ¬StillCalls v d b' c'

theorem command?_of_isAside {e : Event} (aside : e.isAside = true) (other : e.kind ≠ .mode) :
    e.command? d = none := by
  unfold Event.command?
  split
  · exact absurd rfl other
  · cases aside
  · rfl

theorem command?_call (a : Await) : (Event.called a.call).command? d =
    match a with
    | .attaching e _ => if e = d then some a.call else none
    | _ => none := by
  cases a <;> rfl

theorem Answers.commands {a : Await} {new : List Event} {p : Progress} (h : Answers w a new p) :
    (∀ e ∈ new, e.command? d = none) ∨
      ∃ l, a = .askingNode d ∧ w.selectedLocation = .ok l ∧
        new = [.called (Await.attaching d l).call] ∧ p = .waiting (w.pending (.attaching d l)) := by
  cases h with
  | @asks e l selected =>
    by_cases same : e = d
    · subst same
      exact .inr ⟨l, rfl, selected, rfl, rfl⟩
    · exact .inl (by simp [command?_call, same])
  | shows s l =>
    refine .inl fun e he => ?_
    simp only [highlightEvents, clearing, List.mem_append, List.mem_cons, Option.mem_toList,
      Option.map_eq_some_iff, List.not_mem_nil, or_false] at he
    rcases he with (rfl | rfl | ⟨h, -, rfl⟩ | rfl | rfl) | rfl <;> rfl
  | _ => exact .inl (by simp [Event.command?, Await.call])

theorem Handles.commands {e : DiagramNo} {node : NodeSelection} {new : List Event} {p : Progress}
    (h : Handles w e node new p) : ∀ e ∈ new, e.command? d = none := by
  cases h <;> simp [Event.command?, Await.call]

theorem Starts.commands {r : Request} {new : List Event} {p : Progress} (h : Starts w r new p) :
    (∀ e ∈ new, e.command? d = none) ∨
      ∃ l, r = .linkLocation d l ∧ new = [.called (Await.attaching d l).call] ∧
        p = .waiting (w.pending (.attaching d l)) := by
  cases h with
  | handles h => exact .inl h.commands
  | attaches e l =>
    by_cases same : e = d
    · subst same
      exact .inr ⟨l, rfl, rfl, rfl⟩
    · exact .inl (by simp [command?_call, same])
  | _ => exact .inl (by simp [Event.command?, Await.call])

theorem command?_of_isTelling {e : Event} (telling : e.isTelling = true) : e.command? d = none := by
  unfold Event.command?
  split
  · cases telling
  · cases telling
  · rfl

theorem SessionStep.commands {symbols : List Symbol} {e : DiagramNo} {token : Token} {p q : SessionPoint}
    {new : List Event} {ended : Bool} (h : SessionStep w e token p new q ended)
    (stage : Stage symbols e w.history p) : ∀ event ∈ new, event.command? d = none := by
  intro event he
  rcases h.mem he with telling | ⟨_, rfl⟩ | ⟨node, events, r, h, he⟩ | ⟨bound, q, events, r, rfl, h, he⟩
  · exact command?_of_isTelling telling
  · rfl
  · exact h.commands event he
  · cases stage with
    | handling bound pends fits =>
      rcases h.commands (d := d) with quiet | ⟨l, asks, -⟩
      · exact quiet event he
      -- A session never asks for the selected node.
      · rw [asks] at fits
        cases fits

/-- The step of a job gives a command only to attach a link. -/
theorem JobStep.commands {r : Request} (tag : Option String) {q : JobPoint} {new : List Event}
    {p : Progress} (h : JobStep w r q new p) : (∀ e ∈ r.concludes tag p ++ new, e.command? d = none) ∨
      ∃ l, StillCalls w d (.job r tag q) (Await.attaching d l).call ∧
        r.concludes tag p ++ new = [.called (Await.attaching d l).call] ∧
        p = .waiting (w.pending (.attaching d l)) := by
  have quiet (silent : ∀ e ∈ new, e.command? d = none) :
      ∀ e ∈ r.concludes tag p ++ new, e.command? d = none := by
    intro e he
    rcases List.mem_append.mp he with he | he
    · exact command?_of_isTelling (isTelling_of_concludes r tag p e he)
    · exact silent e he
  cases h with
  | starts h =>
    rcases h.commands (d := d) with silent | ⟨l, rfl, rfl, rfl⟩
    · exact .inl (quiet silent)
    · exact .inr ⟨l, .direct l tag, rfl, rfl⟩
  | @goesOn q new p due h =>
    rcases h.commands (d := d) with silent | ⟨l, asks, selected, rfl, rfl⟩
    · exact .inl (quiet silent)
    · obtain ⟨a, time⟩ := q
      obtain rfl : a = .askingNode d := asks
      exact .inr ⟨l, .action r tag time selected, rfl, rfl⟩

theorem commandsTo_quiet {new past : List Entry} (quiet : ∀ e ∈ new, e.event.command? d = none) :
    commandsTo d (new ++ past) = commandsTo d past :=
  seenIn_append_of_blind quiet

theorem step_mode_other {e : DiagramNo} {token : Token} {p : ModePoint}
    (ht : w.runs t (.selectionMode e token p)) (other : e ≠ d) :
    commandsTo d (w.step t).history = commandsTo d w.history := by
  have quiet {enabled : Bool} : Event.command? d (.called (.setSelectionMode e enabled)) = none := by
    simp [Event.command?, other]
  by_cases ready : w.isReady t = true
  swap
  · rw [step_of_unready (Bool.eq_false_iff.mpr ready)]
  have step : w.step t = w.stepMode t e token p := by simp [Workspace.step, ht, ready]
  rw [step]
  unfold stepMode
  split
  · cases p with
    | starting => exact seenIn_cons_of_blind quiet
    | setting seen enabled due => dsimp only; split <;> exact seenIn_cons_of_blind rfl
    | resting seen =>
      dsimp only
      repeat' split
      all_goals first | rfl | exact seenIn_cons_of_blind quiet
  · rfl

/-- Once its session has stopped, a binding calls the diagram only if it has not run before. -/
theorem Sound.step_mode_commands (hw : Sound w) {e : DiagramNo} {token : Token} {p : ModePoint}
    (ht : w.runs t (.selectionMode e token p)) (stopped : w.hasStopped d = true) :
    commandsTo d (w.step t).history = commandsTo d w.history ∨
      e = d ∧ p = .starting ∧ commandsTo d (w.step t).history =
        commandsTo d w.history ++ [.setSelectionMode d (w.isActivated d)] := by
  obtain ⟨-, ⟨k, rfl⟩, x, hx⟩ := hw.mode_running ht
  obtain ⟨y, hy⟩ := hw.activation (List.getElem?_eq_some_iff.mp hx).1
  by_cases ready : w.isReady t = true
  swap
  · exact .inl (by simp [Workspace.step, ht, ready])
  have step : w.step t = w.stepMode t e [0, k] p := by simp [Workspace.step, ht, ready]
  rw [step]
  simp only [stepMode, hx, hy]
  have asks : commandsTo d (w.setMode t e [0, k] y).history = commandsTo d w.history ++
      if e = d then [.setSelectionMode d (w.isActivated d)] else [] := by
    refine (seenIn_cons _ _ _).trans (congrArg _ ?_)
    by_cases same : e = d
    · subst same
      simp [Event.command?, isActivated_eq hy]
    · simp [Event.command?, same]
  cases p with
  | starting =>
    by_cases same : e = d
    · exact .inr ⟨same, rfl, by rw [asks, if_pos same]⟩
    · exact .inl (by rw [asks, if_neg same, List.append_nil])
  | setting seen enabled due =>
    left
    dsimp only
    split
    · exact seenIn_cons_of_blind rfl
    · exact seenIn_cons_of_blind rfl
  | resting seen =>
    left
    dsimp only
    split
    · rfl
    · next going =>
      -- The token of a session that has stopped is cancelled, and with it those below.
      have other : e ≠ d := by
        rintro rfl
        rw [hw.isCancelled_child hx] at going
        simp [Workspace.hasStopped, hx, going] at stopped
      repeat' split
      · rw [asks, if_neg other, List.append_nil]
      · rfl
      · rfl

/-- Bindings of the diagram and jobs that attach a link are all that give it commands. -/
theorem Served.commands_cases (hs : Served w) (order : ∀ e, InOrder w e) (m : Move) :
    commandsTo d (w.move m).history = commandsTo d w.history ∨
      ∃ t, m = .step t ∧ ((∃ token p, w.runs t (.selectionMode d token p)) ∨
        ∃ r tag q l, w.runs t (.job r tag q) ∧ w.isReady t = true ∧
          StillCalls w d (.job r tag q) (Await.attaching d l).call ∧
          commandsTo d (w.move m).history = commandsTo d w.history ++ [(Await.attaching d l).call]) := by
  have hw := hs.sound
  by_cases part : Author.mode ∈ w.authors m
  · obtain ⟨t, ⟨b, aborted, ended⟩, rfl, ht, moves, -⟩ := exists_step (.inr rfl) part
    obtain ⟨e, token, p, rfl⟩ : ∃ e token p, b = .selectionMode e token p := by
      cases b with
      | selectionMode e token p => exact ⟨e, token, p, rfl⟩
      | _ => cases moves
    show commandsTo d (w.step t).history = _ ∨ _
    rcases step_cases w t with same | ⟨b, hb, dropped⟩ | ⟨b, hb, ready⟩
    · exact .inl (by rw [same])
    · obtain ⟨rfl, -⟩ := Task.mk.inj (Option.some.inj (ht.symm.trans hb))
      exact .inl (by rw [dropped]; rfl)
    · obtain ⟨rfl, -⟩ := Task.mk.inj (Option.some.inj (ht.symm.trans hb))
      by_cases same : e = d
      · subst same
        exact .inr ⟨t, rfl, .inl ⟨token, p, hb⟩⟩
      · exact .inl (step_mode_other hb same)
  -- Without a binding that moves, only the work of a job or a session can give a command.
  rcases move_aside w m with ⟨new, hn, aside⟩ | ⟨t, b, rfl, ht, work, ready⟩
  · obtain ⟨new', hn', recorded⟩ := (hw.move_chain m).history_eq
    obtain rfl : new' = new := List.append_cancel_right (hn'.symm.trans hn)
    left
    rw [hn]
    refine commandsTo_quiet fun e he => command?_of_isAside (aside e he) fun kind => ?_
    obtain ⟨a, ha, records⟩ := recorded e he
    rw [kind] at records
    cases a with
    | mode => exact part ha
    | _ => cases records
  · show commandsTo d (w.step t).history = _ ∨ _
    cases b with
    | session e token p =>
      obtain ⟨new, q, ended, step, history, -⟩ := hw.step_session ht ready
      left
      rw [history]
      exact commandsTo_quiet
        (List.forall_mem_map.mpr (step.commands ((order e).stage t token p _ _ ht)))
    | job r tag q =>
      obtain ⟨new, p, step, history, -⟩ := hw.step_job ht ready
      rcases step.commands tag with quiet | ⟨l, calls, only, -⟩
      · left
        rw [history]
        exact commandsTo_quiet (List.forall_mem_map.mpr quiet)
      · refine .inr ⟨t, rfl, .inr ⟨r, tag, q, l, ht, ready, calls, ?_⟩⟩
        show commandsTo d (w.step t).history = _
        rw [history, only]
        refine (seenIn_cons _ _ _).trans (congrArg _ ?_)
        simp [command?_call]
    | _ => cases work

theorem Served.move_commands (hs : Served w) (order : ∀ e, InOrder w e) (stopped : w.hasStopped d = true)
    (m : Move) : commandsTo d (w.move m).history = commandsTo d w.history ∨
      ∃ t b c, m = .step t ∧ w.runs t b ∧ w.isReady t = true ∧ StillCalls w d b c ∧
        commandsTo d (w.move m).history = commandsTo d w.history ++ [c] := by
  rcases hs.commands_cases (d := d) order m with
    same | ⟨t, rfl, ⟨token, p, ht⟩ | ⟨r, tag, q, l, ht, ready, calls, given⟩⟩
  · exact .inl same
  · refine (hs.sound.step_mode_commands ht stopped).imp_right ?_
    rintro ⟨-, rfl, given⟩
    exact ⟨t, _, _, rfl, ht, by simp [isReady, ht, canRun], .binding token, given⟩
  · exact .inr ⟨t, _, _, rfl, ht, ready, calls, given⟩

/-- No binding is spawned for a closed diagram. -/
theorem Served.closed_spawned (hs : Served w) {x : Diagram} (hx : w.diagrams[d]? = some x)
    (closed : w.isClosed d = true) {token : Token}
    (ht : (w.move m).spawned[t]? = some (.selectionMode d token .starting)) :
    w.spawned[t]? = some (.selectionMode d token .starting) := by
  have kept := (hs.sound.move_chain m).keeps (P := fun u => Served u ∧ u.isClosed d = true ∧
    (∃ x, u.diagrams[d]? = some x) ∧ (u.spawned[t]? = some (.selectionMode d token .starting) →
      w.spawned[t]? = some (.selectionMode d token .starting))) ⟨hs, closed, ⟨x, hx⟩, id⟩ ?_
  · exact kept.2.2.2 ht
  · rintro a - u u' ⟨hu, closed, ⟨y, hy⟩, before⟩ hc
    obtain ⟨y', hy', -⟩ := hc.diagram hy
    refine ⟨hu.change hc, hc.isClosed hy closed, ⟨y', hy'⟩, fun ht => ?_⟩
    rcases hc.spawned_eq with same | ⟨b, hb, born⟩
    · exact before (same ▸ ht)
    · rw [born] at ht
      rcases getElem?_concat.mp ht with old | ⟨-, rfl⟩
      · exact before old
      -- Only the session spawns a binding, and the session of a closed diagram is aborted.
      · cases hb with
        | selectionMode runs hd =>
          have running := hu.owned.aborted_eq hu.sound runs
          rw [closed] at running
          cases running

/-- A binding that has taken a step is not where it was spawned. -/
theorem Sound.step_mode_task (hw : Sound w) {e : DiagramNo} {token : Token} {p q : ModePoint}
    {aborted ended : Bool} (ht : w.runs t (.selectionMode e token p)) (ready : w.isReady t = true)
    (ht' : (w.step t).tasks[t]? = some ⟨.selectionMode e token q, aborted, ended⟩) :
    q ≠ .starting := by
  obtain ⟨-, -, x, hx⟩ := hw.mode_running ht
  obtain ⟨y, hy⟩ := hw.activation (List.getElem?_eq_some_iff.mp hx).1
  rintro rfl
  have step : w.step t = w.stepMode t e token p := by simp [Workspace.step, ht, ready]
  rw [step] at ht'
  simp only [stepMode, hx, hy] at ht'
  cases p with
  | starting => simp [setMode, moveTo, call, record, ht] at ht'
  | setting seen enabled due =>
    dsimp only at ht'
    split at ht' <;> simp [moveTo, note, record, ht] at ht'
  | resting seen =>
    dsimp only at ht'
    repeat' split at ht'
    all_goals simp [finish, setMode, moveTo, call, record, ht] at ht'

/-- Only a diagram that the service knows is asked for its selected node. -/
theorem Starts.asks_listed {r : Request} {new : List Event} {q : Pending}
    (h : Starts w r new (.waiting q)) (asks : q.await = .askingNode d) : w.isRegistered d = true := by
  cases h with
  | asks last =>
    obtain rfl := Await.askingNode.inj asks
    obtain ⟨id, -, known⟩ := Option.bind_eq_some_iff.mp last
    exact List.any_eq_true.mpr ⟨(id, _), mem_of_lookup known, beq_self_eq_true _⟩
  | handles h => cases h <;> cases asks
  | _ => cases asks

theorem JobStep.asks_listed {r : Request} {p : JobPoint} {new : List Event} {q : Pending}
    (h : JobStep w r p new (.waiting q)) (asks : q.await = .askingNode d) :
    w.isRegistered d = true := by
  cases h with
  | starts h => exact h.asks_listed asks
  | @goesOn p new q due h =>
    obtain ⟨a, time⟩ := p
    cases h <;> cases asks

/-- A diagram that was closed and that the service has forgotten. -/
structure Shut (w : Workspace) (d : DiagramNo) : Prop where
  served : Served w
  order : ∀ e, InOrder w e
  opened : ∃ x, w.diagrams[d]? = some x
  closed : w.isClosed d = true
  unlisted : w.isRegistered d = false

namespace Shut

theorem stopped (h : Shut w d) : w.hasStopped d = true := by
  obtain ⟨x, hx⟩ := h.opened
  have released : x.scope.isReleased = true := by simpa [isClosed, hx] using h.closed
  simp only [Workspace.hasStopped, hx, Option.map_some, Option.getD_some]
  simp only [Scope.isReleased, Scope.isCancelled, Scope.root, List.any_eq_true] at released ⊢
  obtain ⟨token, mem, above⟩ := released
  obtain rfl : token = [] := by simpa using above
  exact ⟨[], mem, rfl⟩

/-- The service never gives a number again. -/
theorem move (h : Shut w d) (m : Move) : Shut (w.move m) d := by
  obtain ⟨x, hx⟩ := h.opened
  have chain := h.served.sound.move_chain m
  refine ⟨h.served.move m, fun e => (h.order e).move h.served m, chain.diagram hx,
    chain.isClosed hx h.closed, ?_⟩
  apply Bool.eq_false_iff.mpr
  intro listed
  obtain ⟨entry, mem, same⟩ := List.any_eq_true.mp listed
  obtain rfl := eq_of_beq same
  cases h.served.sound.registryMove m with
  | keeps kept =>
    rcases kept.registry entry mem with old | new
    · have known : w.isRegistered entry.2 = true := List.any_eq_true.mpr ⟨entry, old, same⟩
      rw [h.unlisted] at known
      cases known
    · have opened := (List.getElem?_eq_some_iff.mp hx).1
      exact Nat.ne_of_lt opened new
  | ends ended closed registry =>
    rw [registry] at mem
    cases mem

theorem run (h : Shut w d) (more : List Move) : Shut (w.run more) d := by
  induction more generalizing w with
  | nil => exact h
  | cons m more ih => exact ih (h.move m)

/-- Nothing sets out for a diagram that is shut, but what names it. -/
theorem runs_before (h : Shut w d) {b : Activity} {c : Call} (calls : StillCalls u d b c)
    (ht : (w.move m).runs t b) : w.runs t b ∨ b.isDirectLink d = true := by
  have hw := h.served.sound
  -- A binding or an answer sets out only from an open diagram; what names it directly may come later.
  cases calls with
  | direct l tag => exact .inr (beq_self_eq_true d)
  | binding token =>
    left
    obtain ⟨x, hx⟩ := h.opened
    have before := h.served.closed_spawned hx h.closed (spawned_of_task ht)
    rcases hw.runs_before ht with old | ⟨none, -⟩ | ⟨rfl, b, hb, origin, ready⟩
    · exact old
    · simp [spawned, none] at before
    · cases b with
      | selectionMode e token' p =>
        obtain ⟨rfl, rfl, -⟩ := Activity.selectionMode.inj origin
        exact absurd rfl (hw.step_mode_task hb ready ht)
      | _ => cases origin
  | action r tag due selected =>
    left
    rcases hw.runs_before ht with old | ⟨-, new⟩ | ⟨rfl, b, hb, origin, ready⟩
    · exact old
    · cases new
    · cases b with
      | job r' tag' p =>
        obtain ⟨rfl, rfl, -⟩ := Activity.job.inj origin
        obtain ⟨new, p', step, -, task⟩ := hw.step_job hb ready
        have point := (Activity.job.inj (Task.mk.inj (Option.some.inj (task.symm.trans ht))).1).2.2
        cases p' with
        | waiting q =>
          obtain rfl := JobPoint.waiting.inj point
          have listed := step.asks_listed (d := d) rfl
          rw [h.unlisted] at listed
          cases listed
        | _ => cases point
      | _ => cases origin

theorem run_before (h : Shut w d) {b : Activity} {c : Call} (calls : StillCalls u d b c)
    {more : List Move} (ht : (w.run more).runs t b) : w.runs t b ∨ b.isDirectLink d = true := by
  induction more generalizing w with
  | nil => exact .inl ht
  | cons m more ih =>
    rcases ih (h.move m) ht with old | direct
    · exact h.runs_before calls old
    · exact .inr direct

/-- What has called a diagram is through with it. -/
theorem spent (h : Shut w d) {b : Activity} {c : Call} (ht : w.runs t b) (ready : w.isReady t = true)
    (calls : StillCalls w d b c) {v : Workspace} {b' : Activity} {c' : Call}
    (ht' : (w.step t).runs t b') : ¬StillCalls v d b' c' := by
  intro again
  have hw := h.served.sound
  have origin : b.origin = b'.origin := (hw.move_chain (.step t)).origin ht ht'
  -- After a step a job may wait for an answer, but not to hear of the node of this diagram.
  have job {r : Request} {tag : Option String} {q : JobPoint} (ht : w.runs t (.job r tag q)) :
      False := by
    obtain ⟨new, p, step, -, task⟩ := hw.step_job ht ready
    obtain rfl := (Task.mk.inj (Option.some.inj (ht'.symm.trans task))).1
    cases p with
    | waiting q =>
      cases again with
      | action r tag due =>
        have listed := step.asks_listed (d := d) rfl
        rw [h.unlisted] at listed
        cases listed
    | _ => cases again
  cases calls with
  | binding token =>
    cases again with
    | binding token' =>
      obtain ⟨-, rfl, -⟩ := Activity.selectionMode.inj origin
      exact hw.step_mode_task ht ready ht' rfl
    | _ => cases origin
  | action r tag due selected => exact job ht
  | direct l tag => exact job ht

theorem hearsLate (h : Shut w d) (more : List Move) (m : Move) : HearsLate w (w.run more) d m := by
  have later := h.run more
  refine (later.served.move_commands later.order later.stopped m).imp_right ?_
  rintro ⟨t, b, c, rfl, ht, ready, calls, given⟩
  exact ⟨t, b, c, rfl, ht, calls, h.run_before calls ht, given,
    fun v b' c' ht' => later.spent ht ready calls ht'⟩

end Shut

theorem Agrees.shut {moves : List Move} {id : Url} (h : Agrees moves w) (hs : Served w)
    (order : ∀ e, InOrder w e) (held : w.service.held = true)
    (known : w.service.registry.lookup id = some d) : Shut (w.move (.closeDiagram id)) d := by
  have closes : Closes w d (.closeDiagram id) := .closeDiagram held known
  have opened := List.getElem?_eq_getElem (closes.opened hs.sound)
  refine ⟨hs.move _, fun e => (order e).move hs _, (hs.sound.move_chain _).diagram opened,
    closes.isClosed hs.sound, ?_⟩
  apply Bool.eq_false_iff.mpr
  intro listed
  rw [move_of_held held, isRegistered, carryOut, closeDiagram_service w known] at listed
  obtain ⟨⟨id', e⟩, mem, same⟩ := List.any_eq_true.mp listed
  obtain rfl := eq_of_beq same
  -- A number stands under one name only, and that was taken out.
  obtain ⟨mem, other⟩ := List.mem_filter.mp mem
  obtain rfl := h.agree.id_unique mem (mem_of_lookup known)
  simp at other

/-- Whatever a closed diagram still hears had set out before it was closed, or names it directly. -/
theorem closed_hearsLate (settings : Settings) (visible : List Url) (symbols : List Symbol)
    (conduct : Conduct) (moves : List Move) (id : Url) (d : DiagramNo)
    (held : ((Workspace.new settings visible symbols conduct).run moves).service.held = true)
    (known : ((Workspace.new settings visible symbols conduct).run moves).service.registry.lookup id =
      some d) (more : List Move) (m : Move) :
    HearsLate ((Workspace.new settings visible symbols conduct).run (moves ++ [.closeDiagram id]))
      ((Workspace.new settings visible symbols conduct).run (moves ++ .closeDiagram id :: more)) d m := by
  have start := Served.new settings visible symbols conduct
  have order (e : DiagramNo) := (InOrder.new settings visible symbols conduct).run (d := e) start moves
  have agrees := run_agrees settings visible symbols conduct moves held
  have shut := agrees.shut (start.run moves) order held known
  have split : (Workspace.new settings visible symbols conduct).run (moves ++ .closeDiagram id :: more) =
      (((Workspace.new settings visible symbols conduct).run moves).move (.closeDiagram id)).run more := by
    simp [Workspace.run]
  rw [split, run_concat]
  exact shut.hearsLate more m

/-- A link is asked for while the diagram is open; the host takes its time to tell of the selected node. -/
def asking (id : Url) (range : Range) : List Move :=
  [.openDiagram id (.fresh true) true true, .focusDiagram (some id), .select 7 range,
    .focusEditor (some (7, id)), .setLatency .askSelectedNode 30, .request .link none, .step 2]

/-- The selection mode is bound, and the binding has not run yet. -/
def binding (id : Url) : List Move :=
  [.openDiagram id (.fresh false) false true, .step 1, .send 0 .ready, .step 1]

/-- The action that has asked links to the node of a diagram that was closed in the meantime. -/
theorem asking_hearsLate :
    let id : Url := ⟨"file:///linked.rs", by decide +kernel⟩
    let moves := asking id ⟨⟨1, 1⟩, ⟨2, 2⟩⟩
    let start := Workspace.new ⟨true, 1000, 1, "color"⟩ [] [] (.prompt false false)
    let more : List Move := [.wait 30]
    (start.run moves).service.held = true ∧
      (start.run moves).service.registry.lookup id = some 0 ∧
      HearsLate (start.run (moves ++ [.closeDiagram id]))
        (start.run (moves ++ .closeDiagram id :: more)) 0 (.step 2) :=
  ⟨by decide +kernel, by decide +kernel,
    closed_hearsLate _ _ _ _ _ _ 0 (by decide +kernel) (by decide +kernel) _ _⟩

/-- A diagram can be called after it was closed: to attach a link that was asked for before, and to take
the activation that was stored since. -/
theorem closed_hears :
    let id : Url := ⟨"file:///linked.rs", by decide +kernel⟩
    let range : Range := ⟨⟨1, 1⟩, ⟨2, 2⟩⟩
    let start := Workspace.new ⟨true, 1000, 1, "color"⟩ [] [] (.prompt false false)
    let asked := start.run (asking id range ++ [.closeDiagram id])
    let bound := start.run (binding id ++ [.closeDiagram id])
    commandsTo 0 asked.history = [] ∧
      commandsTo 0 (asked.run [.wait 30, .step 2]).history = [(Await.attaching 0 ⟨id, range⟩).call] ∧
      commandsTo 0 bound.history = [] ∧
      commandsTo 0 (bound.run [.request (.activate 0 true) none, .step 3, .step 3, .step 2]).history =
        [.setSelectionMode 0 true] :=
  ⟨rfl, rfl, rfl, rfl⟩

end DiagramLinks
