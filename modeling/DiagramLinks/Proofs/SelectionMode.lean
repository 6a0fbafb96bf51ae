import DiagramLinks.Proofs.Binding

namespace DiagramLinks

open Workspace

variable {a : Author} {authors : List Author} {w w' : Workspace} {t : TaskNo} {d : DiagramNo}

def ModePoint.isSetting : ModePoint → Bool
  | setting _ _ _ => true
  | _ => false

/-- No event is left, none can come, and the session takes no more. -/
def Diagram.isAtEnd (x : Diagram) : Bool :=
  x.inbox.isEmpty && !x.sending && !x.receiving

namespace Workspace

/-- How many calls that set the selection mode of a diagram are in flight. -/
def callsInFlight (w : Workspace) (d : DiagramNo) : Nat :=
  (w.bindings d).countP fun b => b.1.isSetting && !b.2

/-- Whether the session of a diagram has come to the end of its events. -/
def isAtEnd (w : Workspace) (d : DiagramNo) : Bool :=
  (w.diagrams[d]?.map Diagram.isAtEnd).getD false

/-- How many moves of a run change the activation of a diagram. -/
def flips (w : Workspace) (d : DiagramNo) : List Move → Nat
  | [] => 0
  | m :: more =>
    (if (w.move m).isActivated d = w.isActivated d then 0 else 1) + (w.move m).flips d more

end Workspace

/-- How the selection mode of a diagram follows its activation. -/
structure ModeFollows (w : Workspace) (d : DiagramNo) : Prop where
  /-- The selection mode is bound when the session has handled `ready`, and not before. -/
  bound : w.bindings d ≠ [] ↔ w.HasHandledReady d
  one : (w.bindings d).length ≤ 1
  inFlight : w.callsInFlight d ≤ 1
  /-- A move makes one call at most, and only when `ready` was handled and no call is in flight. The
  call carries the activation of that moment. -/
  calls : ∀ m, (w.move m).modeCalls d = w.modeCalls d ∨
    w.HasHandledReady d ∧ w.callsInFlight d = 0 ∧ (w.move m).callsInFlight d = 1 ∧
      (w.move m).isActivated d = w.isActivated d ∧
      (w.move m).modeCalls d = w.modeCalls d ++ [w.isActivated d]
  /-- The first call waits for nothing. -/
  first : ∀ (t : TaskNo) token p aborted ended,
    w.tasks[t]? = some ⟨.selectionMode d token p, aborted, ended⟩ → w.modeCalls d = [] →
      w.isReady t = true ∧ (w.step t).modeCalls d = [w.isActivated d]
  /-- From the first call on there is no more than one call for each move that changes the activation. -/
  count : ∀ m, w.modeCalls d = [] → (w.move m).modeCalls d ≠ [] → ∀ more,
    (((w.move m).run more).modeCalls d).length ≤ 1 + (w.move m).flips d more
  /-- After a call the task goes on, whether the call was carried out or refused. -/
  goesOn : ∀ t token seen enabled due,
    w.runs t (.selectionMode d token (.setting seen enabled due)) → due ≤ w.now →
      (w.step t).runs t (.selectionMode d token (.resting seen))
  /-- The task ends only with the session or with the store. -/
  ends : ∀ p, (p, true) ∈ w.bindings d → w.isClosed d = true ∨ w.isAtEnd d = true ∨
    ∃ x, w.activation? d = some x ∧ x.live = false
  /-- When all tasks wait, the last call told the activation as it is. -/
  settled : (∀ t, w.isReady t = false) → w.callsInFlight d = 0 → w.isClosed d = false →
    w.isAtEnd d = false → w.HasHandledReady d →
      (w.modeCalls d).getLast? = some (w.isActivated d)

/-- A session that has stopped was closed, or it is at the end of its events. -/
def Closing (w : Workspace) : Prop :=
  ∀ x ∈ w.diagrams, x.scope.isCancelled [0] = true → x.scope.isReleased = true ∨ x.isAtEnd = true

theorem DiagramChange.closing {x x' : Diagram} (h : DiagramChange w d x a x') (hw : Sound w)
    (old : x.scope.isCancelled [0] = true → x.scope.isReleased = true ∨ x.isAtEnd = true)
    (stopped : x'.scope.isCancelled [0] = true) :
    x'.scope.isReleased = true ∨ x'.isAtEnd = true := by
  cases h with
  | same => exact old stopped
  | take inbox => exact (old stopped).imp_right fun atEnd => by simp [Diagram.isAtEnd, inbox] at atEnd
  | bind inbox issued =>
    exact (old stopped).imp_right fun atEnd => by simp [Diagram.isAtEnd, inbox] at atEnd
  | @endSession t token p h ending =>
    obtain ⟨rfl, -⟩ := hw.roster.session t d token (spawned_of_task h)
    have ended (sending : x.sending = false) :
        Diagram.isAtEnd { x with scope := x.scope.cancel [0], receiving := false, inbox := [] } := by
      simp [Diagram.isAtEnd, sending]
    -- Cancelling again adds nothing; at the end of the events nothing can come.
    rcases ending with before | ⟨-, sending⟩
    · refine (old before).imp (fun released => ?_) fun atEnd => ended ?_
      · simp_all [Scope.isReleased, Scope.isCancelled, Scope.cancel]
      · simp_all [Diagram.isAtEnd]
    · exact .inr (ended sending)
  | drop h => exact (old stopped).imp_right fun atEnd => by simp_all [Diagram.isAtEnd]
  | send e sending receiving =>
    exact (old stopped).imp_right fun atEnd => by simp [Diagram.isAtEnd, receiving] at atEnd
  | endEvents => exact (old stopped).imp_right fun atEnd => by simp_all [Diagram.isAtEnd]
  | setNode hasNode => exact old stopped
  | release => exact .inl rfl

theorem Closing.change (h : Closing w) (hw : Sound w) (hc : Change a w w') : Closing w' := by
  intro x' hx' stopped
  by_cases ha : a = .opening
  · subst ha
    cases hc with
    | openDiagram id choice hasNode =>
      obtain ⟨stores, store, -, he⟩ := openDiagram_eq w id choice hasNode
      rw [he] at hx'
      rcases List.mem_append.mp hx' with old | new
      · exact h x' old stopped
      · obtain rfl := List.mem_singleton.mp new
        cases stopped
  · obtain ⟨d, hd⟩ := List.mem_iff_getElem?.mp hx'
    obtain ⟨x, hx, changed⟩ := hc.diagram_before ha hd
    exact changed.closing hw (h x (List.mem_of_getElem? hx)) stopped

theorem isActivated_eq {x : Watched Bool} (hx : w.activation? d = some x) :
    w.isActivated d = x.value := by
  simp [isActivated, hx]

theorem Chain.activation_kept {x : Watched Bool} (h : Chain authors w w')
    (no : Author.writer ∉ authors) (hx : w.activation? d = some x) :
    ∃ x', w'.activation? d = some x' ∧ x'.value = x.value ∧ x'.changes = x.changes := by
  refine h.keeps (P := fun u => ∃ x', u.activation? d = some x' ∧ x'.value = x.value ∧
    x'.changes = x.changes) ⟨x, hx, rfl, rfl⟩ ?_
  rintro a ha u u' ⟨y, hy, value, changes⟩ hc
  obtain ⟨z, hz, changed⟩ := hc.activation hy
  refine ⟨z, hz, ?_⟩
  cases changed with
  | same => exact ⟨value, changes⟩
  | write => exact absurd ha no
  | close => exact ⟨value, changes⟩

/-- A move changes an activation once at most, and then to another value. -/
theorem Sound.move_changes {x : Watched Bool} (hw : Sound w) (m : Move)
    (hx : w.activation? d = some x) : ∃ x', (w.move m).activation? d = some x' ∧
      x'.changes ≤ x.changes + if x'.value = x.value then 0 else 1 := by
  obtain ⟨authors, no, u, hu, rest⟩ := move_writesOnce m hw.registry
  have written : ∃ y, u.activation? d = some y ∧
      y.changes ≤ x.changes + if y.value = x.value then 0 else 1 := by
    rcases hu with rfl | hc
    · exact ⟨x, hx, by simp⟩
    · obtain ⟨y, hy, changed⟩ := hc.activation hx
      refine ⟨y, hy, ?_⟩
      cases changed with
      | same => simp
      | write activated live =>
        unfold Watched.write
        split
        · simp
        -- A write of another value is the one change that shows as a flip.
        · next other => simp [Watched.replace, Ne.symm other]
  obtain ⟨y, hy, le⟩ := written
  obtain ⟨x', hx', value, changes⟩ := rest.activation_kept no hy
  exact ⟨x', hx', by rw [changes, value]; exact le⟩

theorem Sound.run_changes {x : Watched Bool} (hw : Sound w) (more : List Move)
    (hx : w.activation? d = some x) :
    ∃ x', (w.run more).activation? d = some x' ∧ x'.changes ≤ x.changes + w.flips d more := by
  induction more generalizing w x with
  | nil => exact ⟨x, hx, Nat.le_refl _⟩
  | cons m more ih =>
    obtain ⟨y, hy, once⟩ := hw.move_changes m hx
    obtain ⟨x', hx', rest⟩ := ih (hw.move m) hy
    refine ⟨x', hx', ?_⟩
    rw [flips, isActivated_eq hy, isActivated_eq hx]
    omega

/-- From a start on, the calls are no more than the changes that were seen since. -/
def Counted (start : Nat) (w : Workspace) (d : DiagramNo) : Prop :=
  ∃ p ended seen, w.bindings d = [(p, ended)] ∧ ModePoint.seen? p = some seen ∧
    (w.modeCalls d).length + start ≤ 1 + seen

namespace Counted

variable {start : Nat}

theorem change (h : Counted start w d) (hb : Binding w d) (hw : Sound w) (hc : Change a w w') :
    Counted start w' d := by
  obtain ⟨p, ended, seen, bindings, hp, le⟩ := h
  obtain ⟨-, -, ⟨y, hy, told⟩, -⟩ := hb.of_mem (mem_of_singleton bindings)
  have untouched (same : Untouched w w' d) : Counted start w' d :=
    ⟨p, ended, seen, same.bindings.trans bindings, hp, by rw [same.calls]; exact le⟩
  by_cases ha : a = .mode
  · subst ha
    rcases hc.mode hw d with same | ⟨before, after, b, b', calls, changed, old, new, called, -⟩
    · exact untouched same
    · rw [bindings] at old
      obtain ⟨rfl, rfl, rfl⟩ := eq_of_singleton old
      cases changed with
      | @call _ x due hx news =>
        refine ⟨_, _, _, new, rfl, ?_⟩
        -- A call after the first one answers to a change that was not seen yet.
        have before : seen < x.changes := by
          rcases news with rfl | ⟨n, rfl, news⟩
          · cases hp
          · simp only [hp] at told
            obtain rfl := Option.some.inj hp
            obtain rfl := Option.some.inj (hx.symm.trans hy)
            have ne : n ≠ x.changes := fun eq => by simp [isNews_eq_false.mpr eq] at news
            exact Nat.lt_of_le_of_ne told.1 ne
        rw [called, List.length_append, List.length_singleton]
        omega
      | rest => exact ⟨_, _, _, new, hp, by rw [called, List.append_nil]; exact le⟩
      | finish why => exact ⟨_, _, _, new, hp, by rw [called, List.append_nil]; exact le⟩
  · rcases hc.untouched ha d with binds | same
    · have unbound := isBound_of_binds hw binds
      cases hb with
      | none bound none => simp [bindings] at none
      | one bound => simp [unbound] at bound
    · exact untouched same

theorem run (h : Counted start w d) (hb : Binding w d) (hw : Sound w) (more : List Move) :
    Counted start (w.run more) d := by
  have kept := hw.keeps_run (P := fun u => Counted start u d ∧ Binding u d) ⟨h, hb⟩
    (fun hu hp hc => ⟨hp.1.change hp.2 hu hc, hp.2.change hu hc⟩) more
  exact kept.1

end Counted

/-- A move that calls a diagram. -/
structure Calls (w w' : Workspace) (d : DiagramNo) (x : Watched Bool) : Prop where
  activation : w.activation? d = some x
  same : w'.activation? d = some x
  handled : w.HasHandledReady d
  before : ∃ p, w.bindings d = [(p, false)] ∧ p.isSetting = false
  after : ∃ due, w'.bindings d = [(.setting x.changes x.value due, false)]
  calls : w'.modeCalls d = w.modeCalls d ++ [x.value]

/-- A move in which the task of a selection mode takes part is a step of it, one change at most. -/
theorem move_mode {m : Move} (part : Author.mode ∈ w.authors m) :
    w.move m = w ∨ Change .mode w (w.move m) := by
  obtain ⟨t, ⟨b, aborted, ended⟩, rfl, ht, moves, -⟩ := exists_step (.inr rfl) part
  obtain ⟨e, token, p, rfl⟩ : ∃ e token p, b = .selectionMode e token p := by
    cases b with
    | selectionMode e token p => exact ⟨e, token, p, rfl⟩
    | _ => cases moves
  exact step_mode ht

theorem Binding.calls (h : Binding w d) (hw : Sound w) (m : Move) :
    (w.move m).modeCalls d = w.modeCalls d ∨ ∃ x, Calls w (w.move m) d x := by
  by_cases part : Author.mode ∈ w.authors m
  · rcases move_mode part with same | hc
    · exact .inl (by rw [same])
    rcases hc.mode hw d with same | ⟨before, after, b, b', calls, changed, old, new, called, -⟩
    · exact .inl same.calls
    obtain ⟨one, handled, -, -⟩ := h.of_mem (show (b.1, b.2) ∈ w.bindings d by rw [old]; simp)
    rw [one] at old
    obtain ⟨rfl, -, rfl⟩ := eq_of_singleton old
    cases changed with
    | @call p x due hx news =>
      refine .inr ⟨x, hx, (hc.mode_same d).1.trans hx, handled, ⟨p, one, ?_⟩, ⟨due, new⟩, called⟩
      rcases news with rfl | ⟨seen, rfl, -⟩ <;> rfl
    | rest => exact .inl (by rw [called, List.append_nil])
    | finish why => exact .inl (by rw [called, List.append_nil])
  · exact .inl ((hw.move_chain m).modeCalls_eq part d)

theorem mem_bindings {token : Token} {p : ModePoint} {aborted ended : Bool}
    (ht : w.tasks[t]? = some ⟨.selectionMode d token p, aborted, ended⟩) : (p, ended) ∈ w.bindings d :=
  List.mem_filterMap.mpr ⟨_, List.mem_of_getElem? ht, by simp [Task.binding?]⟩

theorem exists_task {p : ModePoint} {ended : Bool} (h : (p, ended) ∈ w.bindings d) :
    ∃ (t : TaskNo) (token : Token) (aborted : Bool),
      w.tasks[t]? = some ⟨.selectionMode d token p, aborted, ended⟩ := by
  obtain ⟨⟨b, aborted, ended'⟩, hx, binding⟩ := List.mem_filterMap.mp h
  obtain ⟨t, ht⟩ := List.mem_iff_getElem?.mp hx
  cases b with
  | selectionMode e token q =>
    simp only [Task.binding?, Option.ite_none_right_eq_some, Option.some.injEq,
      Prod.mk.injEq] at binding
    obtain ⟨rfl, rfl, rfl⟩ := binding
    exact ⟨t, token, aborted, ht⟩
  | _ => cases binding

theorem Sound.mode_running (hw : Sound w) {token : Token} {p : ModePoint} {aborted ended : Bool}
    (ht : w.tasks[t]? = some ⟨.selectionMode d token p, aborted, ended⟩) :
    aborted = false ∧ (∃ k, token = [0, k]) ∧ ∃ x, w.diagrams[d]? = some x := by
  obtain ⟨child, valid⟩ := hw.roster.mode t d token (spawned_of_task ht)
  refine ⟨Bool.eq_false_iff.mpr fun flag => ?_, child, _, List.getElem?_eq_getElem valid⟩
  have owned := hw.aborted t _ ht flag
  cases owned

/-- The first call is made at once. -/
theorem Binding.first (h : Binding w d) (hw : Sound w) {token : Token} {p : ModePoint}
    {aborted ended : Bool} (ht : w.tasks[t]? = some ⟨.selectionMode d token p, aborted, ended⟩)
    (silent : w.modeCalls d = []) :
    w.isReady t = true ∧ (w.step t).modeCalls d = [w.isActivated d] := by
  obtain ⟨-, -, ⟨x, hx, told⟩, ending⟩ := h.of_mem (mem_bindings ht)
  obtain rfl : p = .starting := by
    cases p with
    | starting => rfl
    | _ => simp [silent, ModePoint.seen?] at told
  obtain rfl : ended = false := by
    apply Bool.eq_false_iff.mpr
    intro yes
    obtain ⟨seen, hp, -⟩ := ending yes
    cases hp
  obtain ⟨rfl, -, diagram, hd⟩ := hw.mode_running ht
  have ready : w.isReady t = true := by simp [isReady, ht, canRun]
  have step : w.step t = w.setMode t d token x := by simp [step, ht, ready, stepMode, hd, hx]
  refine ⟨ready, ?_⟩
  rw [step, isActivated_eq hx]
  refine (timeline_record w (.called (.setSelectionMode d x.value)) (Event.modeCall? d)).trans ?_
  show w.modeCalls d ++ _ = _
  simp [silent, Event.modeCall?]

theorem Binding.count (h : Binding w d) (hw : Sound w) (m : Move) (silent : w.modeCalls d = [])
    (calls : (w.move m).modeCalls d ≠ []) (more : List Move) :
    (((w.move m).run more).modeCalls d).length ≤ 1 + (w.move m).flips d more := by
  rcases h.calls hw m with same | ⟨x, call⟩
  · exact absurd (same.trans silent) calls
  obtain ⟨due, now⟩ := call.after
  -- The first call has seen everything up to now, so counting starts at one.
  have start : Counted x.changes (w.move m) d :=
    ⟨_, _, _, now, rfl, by simp [call.calls, silent]⟩
  obtain ⟨p, ended, seen, bindings, hp, le⟩ := start.run (h.move hw m) (hw.move m) more
  obtain ⟨-, -, ⟨y, hy, told⟩, -⟩ := ((h.move hw m).run (hw.move m) more).of_mem
    (mem_of_singleton bindings)
  obtain ⟨z, hz, changes⟩ := (hw.move m).run_changes more call.same
  obtain rfl := Option.some.inj (hy.symm.trans hz)
  simp only [hp] at told
  omega

/-- After a call the task goes on, whatever became of the call. -/
theorem Sound.mode_goesOn (hw : Sound w) {token : Token} {seen due : Nat} {enabled : Bool}
    (ht : w.runs t (.selectionMode d token (.setting seen enabled due))) (now : due ≤ w.now) :
    (w.step t).runs t (.selectionMode d token (.resting seen)) := by
  obtain ⟨-, -, diagram, hd⟩ := hw.mode_running ht
  obtain ⟨x, hx⟩ := hw.activation (List.getElem?_eq_some_iff.mp hd).1
  have ready : w.isReady t = true := by simp [isReady, ht, canRun, now]
  have step : w.step t = w.stepMode t d token (.setting seen enabled due) := by simp [step, ht, ready]
  rw [step]
  simp only [stepMode, hd, hx]
  split
  · exact runs_moveTo ht
  · exact runs_moveTo ht

theorem Closing.ends (h : Closing w) (stopped : w.hasStopped d = true) :
    w.isClosed d = true ∨ w.isAtEnd d = true := by
  cases hd : w.diagrams[d]? with
  | none => simp [Workspace.hasStopped, hd] at stopped
  | some x =>
    rw [Workspace.hasStopped, hd] at stopped
    rcases h x (List.mem_of_getElem? hd) stopped with released | atEnd
    · exact .inl (by simp [isClosed, hd, released])
    · exact .inr (by simp [isAtEnd, hd, atEnd])

theorem Binding.ends (h : Binding w d) (closing : Closing w) {p : ModePoint}
    (hp : (p, true) ∈ w.bindings d) : w.isClosed d = true ∨ w.isAtEnd d = true ∨
      ∃ x, w.activation? d = some x ∧ x.live = false := by
  obtain ⟨-, -, -, ending⟩ := h.of_mem hp
  rcases ending rfl with ⟨seen, rfl, stopped | ⟨x, hx, closed, -⟩⟩
  · exact (closing.ends stopped).imp_right .inl
  · exact .inr (.inr ⟨x, hx, closed⟩)

theorem HasHandledReady.mem (h : w.HasHandledReady d) :
    ∃ e ∈ w.history, e.event = .taken d .ready := by
  obtain ⟨time, time', inside⟩ := h
  exact ⟨⟨time', .taken d .ready⟩, inside.subset (by simp), rfl⟩

theorem Binding.bound_iff (h : Binding w d) : w.bindings d ≠ [] ↔ w.HasHandledReady d := by
  cases h with
  | none bound bindings untaken =>
    refine ⟨fun some => absurd bindings some, fun handled => ?_⟩
    obtain ⟨e, he, taken⟩ := HasHandledReady.mem handled
    exact absurd taken (untaken e he)
  | one bound bindings handled =>
    refine ⟨fun _ => handled, fun _ => ?_⟩
    rw [bindings]
    exact List.cons_ne_nil _ _

/-- A task that waits with no call in flight has told the activation as it is, unless the session has
stopped. -/
theorem Binding.told (h : Binding w d) (hw : Sound w) {token : Token} {p : ModePoint}
    {aborted ended : Bool} (ht : w.tasks[t]? = some ⟨.selectionMode d token p, aborted, ended⟩)
    (waits : w.isReady t = false) (idle : w.callsInFlight d = 0) :
    w.hasStopped d = true ∨ (w.modeCalls d).getLast? = some (w.isActivated d) := by
  obtain ⟨one, -, ⟨x, hx, told⟩, ending⟩ := h.of_mem (mem_bindings ht)
  obtain ⟨rfl, -, diagram, hd⟩ := hw.mode_running ht
  rw [isActivated_eq hx]
  -- All that is left to show is that the task has seen the last change.
  have last {seen : Nat} (hp : p.seen? = some seen) (eq : seen = x.changes) :
      (w.modeCalls d).getLast? = some x.value := by
    simp only [hp] at told
    obtain ⟨-, enabled, last, value⟩ := told
    rw [last, value eq]
  cases ended with
  | true =>
    rcases ending rfl with ⟨seen, rfl, stopped | ⟨y, hy, -, eq⟩⟩
    · exact .inl stopped
    · obtain rfl := Option.some.inj (hx.symm.trans hy)
      exact .inr (last rfl eq)
  | false =>
    rw [isReady_of_runs ht] at waits
    cases p with
    | starting => cases waits
    | setting seen enabled due => simp [callsInFlight, one, ModePoint.isSetting] at idle
    | resting seen =>
      simp only [canRun, hd, hx, Option.map_some, Option.getD_some, Bool.or_eq_false_iff] at waits
      exact .inr (last rfl (isNews_eq_false.mp waits.2.1))

theorem Binding.settled (h : Binding w d) (hw : Sound w) (closing : Closing w)
    (waits : ∀ t, w.isReady t = false) (idle : w.callsInFlight d = 0) (isOpen : w.isClosed d = false)
    (going : w.isAtEnd d = false) (handled : w.HasHandledReady d) :
    (w.modeCalls d).getLast? = some (w.isActivated d) := by
  obtain ⟨⟨p, ended⟩, mem⟩ := List.exists_mem_of_ne_nil _ (h.bound_iff.mpr handled)
  obtain ⟨t, token, aborted, ht⟩ := exists_task mem
  rcases h.told hw ht (waits t) idle with stopped | told
  · rcases closing.ends stopped with closed | atEnd
    · simp [closed] at isOpen
    · simp [atEnd] at going
  · exact told

theorem Binding.one_at_most (h : Binding w d) : (w.bindings d).length ≤ 1 := by
  cases h with
  | none bound bindings => simp [bindings]
  | one bound bindings => simp [bindings]

/-- In every run, whatever the hosts do, the selection mode of every diagram follows its activation. -/
theorem run_modeFollows (settings : Settings) (visible : List Url) (symbols : List Symbol)
    (conduct : Conduct) (moves : List Move) (d : DiagramNo) :
    ModeFollows ((Workspace.new settings visible symbols conduct).run moves) d := by
  have start := Sound.new settings visible symbols conduct
  have hw := start.run moves
  have hb := (Binding.new settings visible symbols conduct).run (d := d) start moves
  have closing : Closing ((Workspace.new settings visible symbols conduct).run moves) :=
    start.keeps_run (fun x hx => absurd hx List.not_mem_nil) (fun hu h hc => h.change hu hc) moves
  constructor
  case bound => exact hb.bound_iff
  case one => exact hb.one_at_most
  case inFlight => exact Nat.le_trans List.countP_le_length hb.one_at_most
  case calls =>
    intro m
    apply (hb.calls hw m).imp_right
    rintro ⟨x, hx, same, handled, ⟨p, before, quiet⟩, ⟨due, after⟩, calls⟩
    refine ⟨handled, ?_, ?_, ?_, ?_⟩
    · simp [callsInFlight, before, quiet]
    · simp [callsInFlight, after, ModePoint.isSetting]
    · rw [isActivated_eq hx, isActivated_eq same]
    · rw [calls, isActivated_eq hx]
  case first => exact fun t token p aborted ended ht silent => hb.first hw ht silent
  case count => exact hb.count hw
  case goesOn => exact fun t token seen enabled due ht now => hw.mode_goesOn ht now
  case ends => exact fun p hp => hb.ends closing hp
  case settled => exact hb.settled hw closing

/-- An activation that is written while a call is in flight is told by the next call, though both are
refused. -/
theorem run_modeFollows_refused :
    let id : Url := ⟨"file:///refused.rs", by decide +kernel⟩
    let w := (Workspace.new .default [] [] (.prompt false false)).run
      [.step 0, .openDiagram id (.fresh false) false true, .step 1, .send 0 .ready, .step 1, .step 2,
        .setRefusal .setSelectionMode true, .request (.activate 0 true) none, .step 3, .step 3,
        .step 2, .step 2, .step 2]
    (∀ t, w.isReady t = false) ∧ w.modes 0 = [] ∧ w.modeCalls 0 = [false, true] ∧
      w.isActivated 0 = true ∧ (w.modeCalls 0).getLast? = some (w.isActivated 0) := by
  intro id w
  have waits : ∀ t, w.isReady t = false := all_wait (by decide +kernel)
  have follows : ModeFollows w 0 := run_modeFollows _ _ _ _ _ _
  have handled : w.HasHandledReady 0 := follows.bound.mp (by decide +kernel)
  exact ⟨waits, by decide +kernel, by decide +kernel, by decide +kernel,
    follows.settled waits (by decide +kernel) (by decide +kernel) (by decide +kernel) handled⟩

end DiagramLinks
