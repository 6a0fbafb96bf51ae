import DiagramLinks.Proofs.LinkAction

namespace DiagramLinks

open Workspace

/-- What the binding of a selection mode goes by. -/
structure Outlook where
  activation : Option (Watched Bool)
  /-- The session was closed, or has come to the end of its events. -/
  stopped : Bool
  /-- The session has handled `ready`. -/
  bound : Bool
deriving DecidableEq

/-- Where the binding of a selection mode stands. The diagram has none until its session has handled `ready`. -/
inductive Phase
  | absent
  | starting
  | setting (seen : Nat)
  | resting (seen : Nat)
  | ended

def Phase.of : List (ModePoint × Bool) → Phase
  | [] => .absent
  | (_, true) :: _ => .ended
  | (.starting, false) :: _ => .starting
  | (.setting seen _ _, false) :: _ => .setting seen
  | (.resting seen, false) :: _ => .resting seen

/-- What happens to a diagram, as far as its selection mode goes. -/
inductive Happening
  | changes (outlook : Outlook)
  /-- Its binding takes a step. -/
  | steps

/-- A diagram by itself: what its binding goes by, where that stands, and the selection modes it was told. -/
structure Telling where
  outlook : Outlook
  phase : Phase
  told : List Bool

namespace Telling

def tell (k : Telling) (x : Watched Bool) : Telling :=
  { k with phase := .setting x.changes, told := k.told ++ [x.value] }

def step (k : Telling) : Telling :=
  match k.phase, k.outlook.activation with
  | .starting, some x => k.tell x
  | .setting seen, _ => { k with phase := .resting seen }
  | .resting seen, some x =>
    if k.outlook.stopped then { k with phase := .ended }
    else if x.isNews seen then k.tell x
    else if x.live then k
    else { k with phase := .ended }
  | _, _ => k

def next (k : Telling) : Happening → Telling
  | .changes outlook =>
    { k with outlook, phase := if outlook.bound && !k.outlook.bound then .starting else k.phase }
  | .steps => k.step

end Telling

namespace Workspace

def outlook (w : Workspace) (d : DiagramNo) : Outlook :=
  ⟨w.activation? d, w.hasStopped d, w.isBound d⟩

def telling (w : Workspace) (d : DiagramNo) : Telling :=
  ⟨w.outlook d, .of (w.bindings d), w.modeCalls d⟩

/-- Whether a move lets the binding of a diagram take a step. -/
def stepsBinding (w : Workspace) (d : DiagramNo) : Move → Bool
  | .step t => w.isReady t && (w.tasks[t]?.bind (Task.binding? d)).isSome
  | _ => false

def happening (w : Workspace) (d : DiagramNo) (m : Move) : List Happening :=
  if w.stepsBinding d m then [.steps]
  else if (w.move m).outlook d = w.outlook d then []
  else [.changes ((w.move m).outlook d)]

/-- What happens to a diagram in a run. -/
def happenings (w : Workspace) (d : DiagramNo) : List Move → List Happening
  | [] => []
  | m :: more => w.happening d m ++ (w.move m).happenings d more

end Workspace

/-- The diagram that a call is to, or whose store it is to. -/
def Call.diagram? : Call → Option DiagramNo
  | .setSelectionMode d _ => some d
  | .askSelectedNode d => some d
  | .attachLink d _ => some d
  | .storeActivation d _ => some d
  | _ => none

def Call.isStore : Call → Bool
  | .storeActivation _ _ => true
  | _ => false

/-- The diagram that an action is for if it starts now. -/
def Workspace.target? (w : Workspace) : Action → Option DiagramNo
  | .toggleActivation => w.service.active.value
  | .linkSelectedNode => w.lastActiveDiagram?

/-- Nobody holds the service any more, and what used it last lets it go. -/
structure Workspace.EndsService (w : Workspace) (m : Move) : Prop where
  unheld : w.service.held = false
  before : w.service.active.live = true
  after : (w.move m).service.active.live = false

namespace Job

/-- The action has started with its first step, and the diagram was the one that it was for then. -/
inductive AimsAt (j : Job) (action : Action) (w : Workspace) (more : List Move) (d : DiagramNo) : Prop
  | intro {before} (goes : j.GoesOn w .starting before more) (target : (w.run before).target? action = some d)

/-- Toggles call only stores, and others none; whichever diagram an action calls was its target at its start. -/
structure MayCall (j : Job) (action : Action) (w : Workspace) (more : List Move) (c : Call) : Prop where
  target : ∀ d, c.diagram? = some d → j.AimsAt action w more d
  kind : c.isStore = decide (action = .toggleActivation)

/-- What a step of an action does to a diagram after a run. -/
structure Touches (j : Job) (action : Action) (w : Workspace) (more : List Move) (d : DiagramNo) : Prop where
  /-- Its session and its queue stay as they are, unless the caller is the last to let the service go. -/
  diagram : ((w.run more).step j.task).diagrams[d]? = (w.run more).diagrams[d]? ∨
    (w.run more).EndsService (.step j.task)
  /-- A toggle writes the store of the diagram that was active when it started. -/
  activation : ((w.run more).step j.task).activation? d = (w.run more).activation? d ∨
    action = .toggleActivation ∧
      ∃ e, j.AimsAt action w more e ∧ (w.run more).storeOf? e = (w.run more).storeOf? d
  /-- An action that links gives commands to the diagram that was active last when it started. -/
  commands : commandsTo d ((w.run more).step j.task).history = commandsTo d (w.run more).history ∨
    action = .linkSelectedNode ∧ j.AimsAt action w more d

end Job

/-- The moves of a diagram: what its host and its owner do, and the steps of its session and its binding. -/
inductive Workspace.BelongsTo (w : Workspace) (e : DiagramNo) : Move → Prop
  | session {t : TaskNo} {token : Token} {p aborted ended}
      (ht : w.tasks[t]? = some ⟨.session e token p, aborted, ended⟩) : BelongsTo w e (.step t)
  | binding {t : TaskNo} {token : Token} {p aborted ended}
      (ht : w.tasks[t]? = some ⟨.selectionMode e token p, aborted, ended⟩) : BelongsTo w e (.step t)
  | opens {id choice hasNode onService} (new : e = w.diagrams.length)
      (free : w.service.registry.lookup id = none) : BelongsTo w e (.openDiagram id choice hasNode onService)
  | reopens {id choice hasNode onService} (known : w.service.registry.lookup id = some e) :
      BelongsTo w e (.openDiagram id choice hasNode onService)
  | closes {id} (known : w.service.registry.lookup id = some e) : BelongsTo w e (.closeDiagram id)
  | closeSession : BelongsTo w e (.closeSession e)
  | dropSession : BelongsTo w e (.dropSession e)
  | send (event : DiagramEvent) : BelongsTo w e (.send e event)
  | endEvents : BelongsTo w e (.endEvents e)
  | setNode (hasNode : Bool) : BelongsTo w e (.setNode e hasNode)
  | closeStore : BelongsTo w e (.closeStore e)

/-- The moves of no diagram: changes of the focus and of settings, what goes on in editors and at hosts, the
passing of time, new requests, and the steps of the status indicator and of retractions. -/
inductive Workspace.IsCommon (w : Workspace) : Move → Prop
  | status {t : TaskNo} {token p aborted ended} (ht : w.tasks[t]? = some ⟨.status token p, aborted, ended⟩) :
      IsCommon w (.step t)
  | retraction {t : TaskNo} {h due aborted ended}
      (ht : w.tasks[t]? = some ⟨.retraction h due, aborted, ended⟩) : IsCommon w (.step t)
  | wait (milliseconds : Nat) : IsCommon w (.wait milliseconds)
  | request (r : Request) (tag : Option String) : IsCommon w (.request r tag)
  | focusDiagram (id : Option Url) : IsCommon w (.focusDiagram id)
  | focusEditor (editor : Option (EditorId × Url)) : IsCommon w (.focusEditor editor)
  | readSettings (settings : Json) : IsCommon w (.readSettings settings)
  | setSettings (settings : Settings) : IsCommon w (.setSettings settings)
  | setRevealSettings (settings : Settings) : IsCommon w (.setRevealSettings settings)
  | addEditor (range : Range) : IsCommon w (.addEditor range)
  | select (editor : EditorId) (range : Range) : IsCommon w (.select editor range)
  | setVisible (visible : List Url) : IsCommon w (.setVisible visible)
  | setRefusal (operation : Operation) (on : Bool) : IsCommon w (.setRefusal operation on)
  | setLatency (operation : Operation) (milliseconds : Nat) : IsCommon w (.setLatency operation milliseconds)

/-- Its session, its queue and its store stay as they are, and it is given no command. -/
structure Unaffected (w u : Workspace) (d : DiagramNo) : Prop extends Beside w u d where
  commands : commandsTo d u.history = commandsTo d w.history

/-- A diagram is independent of the others. -/
structure KeepsApart (w : Workspace) (d : DiagramNo) : Prop where
  /-- A move affects a diagram only if it concerns it. -/
  frame : ∀ m, ¬w.Concerns d m → Unaffected w (w.move m) d
  /-- The moves of a diagram concern no other one that has a store of its own. -/
  others : d < w.diagrams.length → ∀ e m, w.BelongsTo e m → e ≠ d → w.storeOf? e ≠ w.storeOf? d →
    ¬w.Concerns d m
  /-- The moves of no diagram concern none. -/
  common : ∀ m, w.IsCommon m → ¬w.Concerns d m
  /-- Whichever diagrams are active later on, an action calls the one that it was for when it started. -/
  calls : ∀ (j : Job) action, j.Performs action → j.StandsAt .starting w → ∀ more,
    ∀ c ∈ w.callsBy j.task more, j.MayCall action w more c
  /-- No step of it does more than write its store, if it toggles, or command it, if it links. -/
  actions : ∀ (j : Job) action, j.Performs action → j.StandsAt .starting w → ∀ more, j.Touches action w more d
  /-- Nothing happens to a diagram in a move that does not concern it, -/
  quiet : ∀ m, ¬w.Concerns d m → w.happening d m = []
  /-- and what happens to it decides with which selection modes it is called. -/
  modes : ∀ more, (w.run more).modeCalls d = ((w.happenings d more).foldl Telling.next (w.telling d)).told

variable {w u : Workspace} {t : TaskNo} {d e : DiagramNo} {m : Move} {token : Token}

theorem Elsewhere.isBound (h : Elsewhere w (w.move m) d) (hw : Sound w) : (w.move m).isBound d = w.isBound d := by
  rw [Bool.eq_iff_iff, isBound_iff, isBound_iff]
  constructor
  · rintro ⟨t, token, p, aborted, ended, ht, bound⟩
    rcases hw.task_before ht with ⟨⟨b, aborted', ended'⟩, hy, origin⟩ | ⟨-, new, -⟩
    · cases b with
      | session e token' p' =>
        obtain ⟨rfl, rfl, -⟩ := Activity.session.inj origin
        obtain ⟨_, _, ht', -⟩ := h.task t token' p' aborted' ended' hy
        obtain ⟨same, -⟩ := Task.mk.inj (Option.some.inj (ht.symm.trans ht'))
        obtain ⟨-, -, rfl⟩ := Activity.session.inj same
        exact ⟨t, _, _, _, _, hy, bound⟩
      | _ => cases origin
    · obtain ⟨-, -, rfl⟩ := Activity.session.inj new
      cases bound
  · rintro ⟨t, token, p, aborted, ended, ht, bound⟩
    obtain ⟨_, _, ht', -⟩ := h.task t token p aborted ended ht
    exact ⟨t, _, _, _, _, ht', bound⟩

theorem stepsBinding_eq_true (h : w.stepsBinding d m = true) : ∃ (t : TaskNo) (token : Token) (p : ModePoint)
    (aborted ended : Bool), m = .step t ∧ w.tasks[t]? = some ⟨.selectionMode d token p, aborted, ended⟩ ∧
      w.isReady t = true := by
  cases m with
  | step t =>
    simp only [stepsBinding, Bool.and_eq_true] at h
    obtain ⟨ready, some⟩ := h
    obtain ⟨b, hb⟩ := Option.isSome_iff_exists.mp some
    obtain ⟨⟨activity, aborted, ended⟩, ht, hb⟩ := Option.bind_eq_some_iff.mp hb
    cases activity with
    | selectionMode e token p =>
      obtain ⟨rfl, -⟩ : e = d ∧ _ := by simpa [Task.binding?] using hb
      exact ⟨t, token, p, aborted, ended, rfl, ht, ready⟩
    | _ => cases hb
  | _ => cases h

theorem Sound.binding_stays (hw : Sound w) (still : w.stepsBinding d m = false) {p : ModePoint} {ended : Bool}
    (mem : (p, ended) ∈ w.bindings d) : (p, ended) ∈ (w.move m).bindings d := by
  obtain ⟨t, token, aborted, ht⟩ := exists_task mem
  by_cases own : m = .step t
  · subst own
    have unready : w.isReady t = false := by simpa [stepsBinding, ht, Task.binding?] using still
    show (p, ended) ∈ (w.step t).bindings d
    rwa [step_of_unready unready]
  · obtain ⟨aborted', ht'⟩ := hw.move_spares own _ ht
    exact mem_bindings ht'

/-- A binding changes nothing that it goes by. -/
theorem Sound.outlook_step (hw : Sound w) {p : ModePoint} {aborted ended : Bool}
    (ht : w.tasks[t]? = some ⟨.selectionMode d token p, aborted, ended⟩) :
    (w.step t).outlook d = w.outlook d := by
  rcases step_mode ht with same | changes
  · rw [same]
  · obtain ⟨activation, stopped⟩ := changes.mode_same d
    rcases changes.mode hw d with same | ⟨_, _, _, _, _, -, -, -, -, bound⟩
    · simp only [outlook, activation, stopped, same.bound]
    · simp only [outlook, activation, stopped, bound]

namespace Binding

/-- A binding that has not called the diagram has not started. -/
theorem starting_of_silent (h : Binding w d) (silent : w.modeCalls d = []) (bound : w.isBound d = true) :
    w.bindings d = [(.starting, false)] := by
  cases h with
  | none unbound => cases unbound.symm.trans bound
  | @one p ended bound bindings handled knows ending =>
    obtain ⟨x, -, told⟩ := knows
    cases p with
    | starting =>
      cases ended with
      | false => exact bindings
      | true =>
        obtain ⟨seen, starting, -⟩ := ending rfl
        cases starting
    | _ => simp [ModePoint.seen?, silent] at told

/-- Without a step of its binding a diagram is told nothing, and at most its binding starts. -/
theorem still (h : Binding w d) (hw : Sound w) (still : w.stepsBinding d m = false) :
    (w.move m).modeCalls d = w.modeCalls d ∧ Phase.of ((w.move m).bindings d) =
      if (w.move m).isBound d && !w.isBound d then .starting else .of (w.bindings d) := by
  have later := h.move hw m
  have calls : (w.move m).modeCalls d = w.modeCalls d := by
    rcases h.calls hw m with same | ⟨x, called⟩
    · exact same
    · obtain ⟨p, one, other⟩ := called.before
      obtain ⟨due, setting⟩ := called.after
      have mem := hw.binding_stays still (mem_of_singleton one)
      rw [setting] at mem
      obtain ⟨rfl, -⟩ := Prod.mk.inj (List.mem_singleton.mp mem)
      cases other
  refine ⟨calls, ?_⟩
  cases h with
  | none bound bindings untaken silent =>
    cases now : (w.move m).isBound d with
    | true => simp [later.starting_of_silent (calls.trans silent) now, bound, Phase.of]
    | false =>
      cases later with
      | none _ none => simp [none, bindings]
      | one bound' => cases now.symm.trans bound'
  | one bound bindings =>
    obtain ⟨same, -⟩ := later.of_mem (hw.binding_stays still (mem_of_singleton bindings))
    simp [same, bindings, bound]

theorem bindings_modify {p p' : ModePoint} {ended : Bool} {f : Task → Task} (one : w.bindings d = [(p, false)])
    (ht : w.runs t (.selectionMode d token p)) (tasks : u.tasks = w.tasks.modify t f)
    (moved : f ⟨.selectionMode d token p, false, false⟩ = ⟨.selectionMode d token p', false, ended⟩) :
    u.bindings d = [(p', ended)] := by
  obtain ⟨before, after, split, modified⟩ := exists_split ht
  rw [bindings, split, List.filterMap_append, List.filterMap_cons] at one
  simp only [Task.binding?, if_true] at one
  obtain ⟨none, -, none'⟩ := eq_of_singleton one.symm
  rw [bindings, tasks, modified, List.filterMap_append, List.filterMap_cons, moved]
  simp [Task.binding?, none, none']

/-- The step of a binding does what the diagram by itself would do. -/
theorem telling_step (h : Binding w d) (hw : Sound w) {p : ModePoint} {aborted ended : Bool}
    (ht : w.tasks[t]? = some ⟨.selectionMode d token p, aborted, ended⟩) (ready : w.isReady t = true) :
    (w.step t).telling d = (w.telling d).step := by
  obtain ⟨rfl, ⟨k, rfl⟩, x, hx⟩ := hw.mode_running ht
  obtain rfl : ended = false := by
    rw [isReady, ht] at ready
    simp_all
  obtain ⟨one, -⟩ := h.of_mem (mem_bindings ht)
  obtain ⟨y, hy⟩ := hw.activation (List.getElem?_eq_some_iff.mp hx).1
  have step : w.step t = w.stepMode t d [0, k] p := by simp [Workspace.step, ht, ready]
  have activation : (w.outlook d).activation = some y := hy
  have stopped : (w.outlook d).stopped = x.scope.isCancelled [0, k] := by
    simp [Workspace.outlook, Workspace.hasStopped, hx, hw.isCancelled_child hx]
  -- Where the binding stands then, and what the diagram was told, says all that has changed.
  have moves {p' : ModePoint} {ended : Bool} {f : Task → Task} {told : List Bool}
      (tasks : (w.step t).tasks = w.tasks.modify t f)
      (moved : f ⟨.selectionMode d [0, k] p, false, false⟩ = ⟨.selectionMode d [0, k] p', false, ended⟩)
      (calls : (w.step t).modeCalls d = told) :
      (w.step t).telling d = ⟨w.outlook d, .of [(p', ended)], told⟩ := by
    rw [telling, hw.outlook_step ht, calls, bindings_modify one ht tasks moved]
  have tells (calls : w.step t = w.setMode t d [0, k] y) :
      (w.step t).telling d = ⟨w.outlook d, .setting y.changes, w.modeCalls d ++ [y.value]⟩ := by
    refine moves (by rw [calls]; rfl) rfl ?_
    rw [calls]
    refine (timeline_record w (.called (.setSelectionMode d y.value)) (Event.modeCall? d)).trans ?_
    simp [Event.modeCall?]
    rfl
  have ends (finishes : w.step t = w.finish t) :
      (w.step t).telling d = ⟨w.outlook d, .ended, w.modeCalls d⟩ := by
    rw [moves (by rw [finishes]; rfl) rfl (by rw [finishes])]
    rfl
  have alone : (w.telling d).step = Telling.step ⟨w.outlook d, .of [(p, false)], w.modeCalls d⟩ := by
    rw [telling, one]
  rw [alone]
  cases p with
  | starting =>
    simp only [stepMode, hx, hy] at step
    rw [tells step]
    simp only [Telling.step, Telling.tell, Phase.of, activation]
  | setting seen enabled due =>
    simp only [stepMode, hx, hy] at step
    simp only [Telling.step, Phase.of]
    split at step
    · exact moves (by rw [step]; rfl) rfl (by rw [step])
    · exact moves (by rw [step]; rfl) rfl (by rw [step])
  | resting seen =>
    simp only [stepMode, hx, hy] at step
    simp only [Telling.step, Phase.of, activation, stopped]
    split at step
    · next cancelled => rw [ends step, if_pos cancelled]
    · next going =>
      rw [if_neg going]
      split at step
      · next news => rw [tells step, if_pos news, Telling.tell]
      · next old =>
        rw [if_neg old]
        split at step
        · next live => rw [if_pos live, step, telling, one]; rfl
        · next closed => rw [if_neg closed, ends step]

/-- What happens to a diagram in a move is all that it goes by. -/
theorem telling_move (h : Binding w d) (hw : Sound w) (m : Move) :
    (w.move m).telling d = (w.happening d m).foldl Telling.next (w.telling d) := by
  cases steps : w.stepsBinding d m with
  | true =>
    obtain ⟨t, token, p, aborted, ended, rfl, ht, ready⟩ := stepsBinding_eq_true steps
    rw [happening, if_pos steps]
    exact h.telling_step hw ht ready
  | false =>
    obtain ⟨calls, phase⟩ := h.still hw steps
    rw [happening, if_neg (by simp [steps]), telling, calls, phase]
    by_cases same : (w.move m).outlook d = w.outlook d
    · have bound : (w.move m).isBound d = w.isBound d := (Outlook.mk.inj same).2.2
      rw [if_pos same, same, bound, Bool.and_not_self]
      rfl
    · rw [if_neg same]
      rfl

theorem telling_run (h : Binding w d) (hw : Sound w) (more : List Move) :
    (w.run more).telling d = (w.happenings d more).foldl Telling.next (w.telling d) := by
  induction more generalizing w with
  | nil => rfl
  | cons m more ih =>
    rw [happenings, List.foldl_append, ← h.telling_move hw m]
    exact ih (h.move hw m) (hw.move m)

end Binding

/-- A diagram is given commands only in moves that concern it. -/
theorem Served.unaffected (hs : Served w) (order : ∀ e, InOrder w e) (other : ¬w.Concerns d m) :
    Unaffected w (w.move m) d := by
  refine ⟨hs.sound.move_beside order other, ?_⟩
  rcases hs.commands_cases (d := d) order m with
    same | ⟨t, rfl, ⟨token, p, ht⟩ | ⟨r, tag, q, l, ht, -, calls, -⟩⟩
  · exact same
  · exact absurd (.binding ht) other
  · generalize (Await.attaching d l).call = c at calls
    cases calls with
    | action r tag due selected => exact absurd (.link ht) other
    | direct l tag => exact absurd (.linkLocation ht) other

theorem Served.quiet (hs : Served w) (order : ∀ e, InOrder w e) (other : ¬w.Concerns d m) :
    w.happening d m = [] := by
  have beside := hs.sound.move_beside order other
  have still : w.stepsBinding d m = false := by
    apply Bool.eq_false_iff.mpr
    intro steps
    obtain ⟨t, token, p, aborted, ended, rfl, ht, -⟩ := stepsBinding_eq_true steps
    exact other (.binding ht)
  have bound : (w.move m).isBound d = w.isBound d := by
    rcases hs.sound.session_cases d m with ⟨t, p, new, q, ended, own⟩ | ⟨elsewhere, -⟩
    · obtain ⟨rfl, ht, -⟩ := own
      exact absurd (.session ht) other
    · exact elsewhere.isBound hs.sound
  have stopped : (w.move m).hasStopped d = w.hasStopped d := by
    rw [Workspace.hasStopped, Workspace.hasStopped, beside.diagram]
  rw [happening, if_neg (by simp [still]), if_pos]
  rw [outlook, outlook, beside.activation, stopped, bound]

theorem Workspace.BelongsTo.not_mayRetire (h : w.BelongsTo e m) : ¬w.MayRetire m := by
  rintro (rfl | ⟨t, r, tag, q, rfl, ht⟩)
  · cases h
  · cases h with
    | session ht' => cases ht.symm.trans ht'
    | binding ht' => cases ht.symm.trans ht'

theorem Workspace.BelongsTo.not_closes (h : w.BelongsTo e m) (hw : Sound w) (other : e ≠ d) : ¬Closes w d m := by
  intro closes
  cases closes with
  | closeDiagram held known =>
    cases h with
    | closes known' => exact other (Option.some.inj (known'.symm.trans known))
  | reopen held known =>
    cases h with
    | opens new free => cases free.symm.trans known
    | reopens known' => exact other (Option.some.inj (known'.symm.trans known))
  | closeSession opened own =>
    cases h
    exact other rfl
  | dropSession opened own =>
    cases h
    exact other rfl
  | endService registered before after =>
    rw [(hw.keepsRegistry h.not_mayRetire).live, before] at after
    cases after

theorem Workspace.BelongsTo.not_concerns (h : w.BelongsTo e m) (hw : Sound w) (opened : d < w.diagrams.length)
    (other : e ≠ d) (apart : w.storeOf? e ≠ w.storeOf? d) : ¬w.Concerns d m := by
  intro concerns
  have working {t : TaskNo} {r : Request} {tag : Option String} {q : JobPoint} (steps : w.BelongsTo e (.step t))
      (ht : w.runs t (.job r tag q)) : False :=
    steps.not_mayRetire (.inr ⟨t, r, tag, q, rfl, ht⟩)
  -- By the reason why the move would concern the diagram.
  cases concerns with
  | session ht =>
    cases h with
    | session ht' =>
      cases ht.symm.trans ht'
      exact other rfl
    | binding ht' => cases ht.symm.trans ht'
  | binding ht =>
    cases h with
    | session ht' => cases ht.symm.trans ht'
    | binding ht' =>
      cases ht.symm.trans ht'
      exact other rfl
  | store ht same => exact working h ht
  | link ht => exact working h ht
  | linkLocation ht => exact working h ht
  | closes closes => exact h.not_closes hw other closes
  | opens new => exact Nat.ne_of_lt opened new
  | send event =>
    cases h
    exact other rfl
  | endEvents =>
    cases h
    exact other rfl
  | setNode hasNode =>
    cases h
    exact other rfl
  | closeStore same =>
    cases h
    exact apart same

theorem Workspace.IsCommon.not_mayRetire (h : w.IsCommon m) : ¬w.MayRetire m := by
  rintro (rfl | ⟨t, r, tag, q, rfl, ht⟩)
  · cases h
  · cases h with
    | status ht' => cases ht.symm.trans ht'
    | retraction ht' => cases ht.symm.trans ht'

theorem Workspace.IsCommon.not_concerns (h : w.IsCommon m) (hw : Sound w) : ¬w.Concerns d m := by
  have ofTask {t : TaskNo} {x : Task} (steps : w.IsCommon (.step t)) (ht : w.tasks[t]? = some x) :
      (∃ token p, x.activity = .status token p) ∨ ∃ h due, x.activity = .retraction h due := by
    cases steps with
    | status ht' =>
      obtain rfl := Option.some.inj (ht.symm.trans ht')
      exact .inl ⟨_, _, rfl⟩
    | retraction ht' =>
      obtain rfl := Option.some.inj (ht.symm.trans ht')
      exact .inr ⟨_, _, rfl⟩
  intro concerns
  cases concerns with
  | session ht => simpa using ofTask h ht
  | binding ht => simpa using ofTask h ht
  | store ht same => simpa using ofTask h ht
  | link ht => simpa using ofTask h ht
  | linkLocation ht => simpa using ofTask h ht
  | closes closes =>
    cases closes with
    | endService registered before after =>
      rw [(hw.keepsRegistry h.not_mayRetire).live, before] at after
      cases after
    | _ => cases h
  | _ => cases h

/-- The call that an activity goes on to rest in is the one it makes. -/
theorem filterMap_call (a : Await) {rest : List Event} (quiet : rest.filterMap Event.call? = []) :
    (Event.called a.call :: rest).filterMap Event.call? = [a.call] := by
  have call : (Event.called a.call).call? = some a.call := by cases a <;> rfl
  rw [List.filterMap_cons_some call, quiet]

/-- A call is to one diagram at most, and to a store or not. -/
structure Call.IsFor (diagram : Option DiagramNo) (store : Bool) (c : Call) : Prop where
  target : ∀ d, c.diagram? = some d → diagram = some d
  kind : c.isStore = store

/-- A request that goes on makes only calls that are allowed, and rests in one of them. -/
structure CallsOnly (allowed : Call → Prop) (new : List Event) (p : Progress) : Prop where
  made : ∀ c ∈ new.filterMap Event.call?, allowed c
  rests : ∀ q, p = .waiting q → q.await.call ∈ new.filterMap Event.call?

namespace CallsOnly

variable {allowed allowed' : Call → Prop} {new : List Event} {p : Progress}

theorem silent {result : Except Problem Unit} (none : new.filterMap Event.call? = []) :
    CallsOnly allowed new (.over result) := by
  refine ⟨fun c hc => ?_, fun q hq => by cases hq⟩
  rw [none] at hc
  cases hc

theorem waits {a : Await} {due : Nat} (call : new.filterMap Event.call? = [a.call]) (allows : allowed a.call) :
    CallsOnly allowed new (.waiting ⟨a, due⟩) := by
  refine ⟨fun c hc => ?_, fun q hq => ?_⟩
  · rw [call] at hc
    rwa [List.mem_singleton.mp hc]
  · obtain rfl := Progress.waiting.inj hq
    rw [call]
    exact List.mem_singleton_self _

theorem imp (h : CallsOnly allowed new p) (weaker : ∀ c, allowed c → allowed' c) : CallsOnly allowed' new p :=
  ⟨fun c hc => weaker c (h.made c hc), h.rests⟩

end CallsOnly

/-- An action that starts calls its target, or nothing. -/
theorem perform_callsOnly (w : Workspace) (action : Action) :
    ∃ new, CallsOnly (Call.IsFor (w.target? action) (decide (action = .toggleActivation))) new (w.perform action).2 ∧
      Records w (w.perform action).1 new := by
  cases action with
  | toggleActivation =>
    simp only [perform]
    unfold Workspace.flip
    cases active : w.service.active.value with
    | none => exact ⟨[], .silent rfl, .nil w⟩
    | some d =>
      dsimp only
      split
      · exact ⟨[], .silent rfl, .nil w⟩
      · exact ⟨_, .waits (filterMap_call _ rfl) ⟨fun e he => active.trans he, rfl⟩,
          (Records.record w _).trans (.ask _ _)⟩
  | linkSelectedNode =>
    simp only [perform]
    rcases link_cases w with ⟨p, -, link⟩ | ⟨-, d, last, link⟩
    · rw [link]
      exact ⟨[], .silent rfl, .nil w⟩
    · rw [link]
      exact ⟨_, .waits (filterMap_call _ rfl) ⟨fun e he => last.trans he, rfl⟩, .ask w _⟩

theorem reveals_of_mem_painting {r : Reveal} {new : Highlight} {previous : Option Highlight} {c : Call}
    (h : c ∈ r.painting new previous) : c.reveals = true := by
  have all : ∀ c ∈ r.painting new previous, c.reveals = true := by
    cases previous <;> simp [Reveal.painting, Call.reveals]
  exact all c h

theorem isFor_of_reveals {c : Call} (reveals : c.reveals = true) (diagram : Option DiagramNo) :
    c.IsFor diagram false := by
  cases c <;> constructor <;> simp_all [Call.reveals, Call.diagram?, Call.isStore]

/-- What follows an answer calls no other diagram than the one that has answered, and no store. -/
theorem Answers.callsOnly {a : Await} {new : List Event} {p : Progress} (h : Answers w a new p) :
    CallsOnly (Call.IsFor a.call.diagram? a.call.isStore) new p := by
  cases h with
  | fails a p => exact .silent rfl
  | misses name visible p => exact .silent rfl
  | stores d activated => exact .silent rfl
  | asks selected => exact .waits (filterMap_call _ rfl) ⟨fun d hd => hd, rfl⟩
  | attaches hd => exact .waits (filterMap_call _ rfl) (isFor_of_reveals rfl _)
  | finds best => exact .waits (filterMap_call _ rfl) (isFor_of_reveals rfl _)
  | opens s l => exact .waits (filterMap_call _ rfl) (isFor_of_reveals rfl _)
  | shows s l =>
    refine ⟨fun c hc => ?_, fun q hq => by cases hq⟩
    rw [List.filterMap_append] at hc
    have painted : c ∈ Reveal.painting ⟨0, s, l⟩ (w.nextHighlight s l) w.revealer.active := by
      rw [← Reveal.calls_highlightEvents]
      simpa [Event.call?] using hc
    exact isFor_of_reveals (reveals_of_mem_painting painted) _

namespace Job

variable {j : Job} {action : Action} {more after : List Move} {c : Call} {q : JobPoint} {calls : List Call}

theorem AimsAt.mono (h : j.AimsAt action w more d) (later : more <+: after) : j.AimsAt action w after d := by
  obtain ⟨goes, target⟩ := h
  exact ⟨goes.mono later, target⟩

theorem MayCall.mono (h : j.MayCall action w more c) (later : more <+: after) : j.MayCall action w after c :=
  ⟨fun d aims => (h.target d aims).mono later, h.kind⟩

/-- Wherever an action stands, it has made no other calls than it may, and it rests in one of them. -/
structure Confined (j : Job) (action : Action) (w : Workspace) (more : List Move) (q : JobPoint)
    (calls : List Call) : Prop where
  made : ∀ c ∈ calls, j.MayCall action w more c
  rests : ∀ p, q = .waiting p → p.await.call ∈ calls

namespace Confined

theorem still (h : j.Confined action w more q calls) (m : Move) : j.Confined action w (more ++ [m]) q calls :=
  ⟨fun c hc => (h.made c hc).mono (List.prefix_append _ _), h.rests⟩

theorem goes (h : j.Confined action w more q calls) (goes : j.GoesOn w q more (more ++ [.step j.task]))
    (hw : Sound w) (performs : j.Performs action) :
    ∃ (p : Progress) (new : List Call), j.StandsAt p.jobPoint ((w.run more).step j.task) ∧
      seenIn Event.call? ((w.run more).recordedBy j.task (.step j.task)) = new ∧
      j.Confined action w (more ++ [.step j.task]) p.jobPoint (calls ++ new) := by
  have old (c : Call) (hc : c ∈ calls) : j.MayCall action w (more ++ [.step j.task]) c :=
    (h.made c hc).mono (List.prefix_append _ _)
  have confined {p : Progress} {new : List Event}
      (only : CallsOnly (j.MayCall action w (more ++ [.step j.task])) new p) :
      j.Confined action w (more ++ [.step j.task]) p.jobPoint (calls ++ (new.filterMap Event.call?).reverse) := by
    refine ⟨fun c hc => ?_, fun q hq => ?_⟩
    · exact (List.mem_append.mp hc).elim (old c) fun hc => only.made c (List.mem_reverse.mp hc)
    · cases p with
      | waiting q' =>
        obtain rfl := JobPoint.waiting.inj hq
        exact List.mem_append_right _ (List.mem_reverse.mpr (only.rests _ rfl))
      | _ => cases hq
  cases q with
  | starting =>
    obtain ⟨new, only, records⟩ := perform_callsOnly (w.run more) action
    obtain ⟨next, made, -⟩ := goes.stands.step goes.ready (hw.run more) _ records
      (by rw [stepJob, start_performs performs])
    exact ⟨_, _, next, made, confined (only.imp fun c hc => ⟨fun d hd => ⟨goes, hc.target d hd⟩, hc.kind⟩)⟩
  | waiting q =>
    obtain ⟨new, answers, records⟩ := answer_answers (w.run more) q.await
    obtain ⟨next, made, -⟩ := goes.stands.answered goes.ready (hw.run more) rfl records
    have asked := old _ (h.rests q rfl)
    exact ⟨_, _, next, made, confined (answers.callsOnly.imp fun c hc =>
      ⟨fun d hd => asked.target d (hc.target d hd), hc.kind.trans asked.kind⟩)⟩
  | ended result => cases goes.stands.going goes.ready

end Confined

/-- Whatever others do meanwhile, an action calls nobody but its target. -/
theorem StandsAt.confined (stands : j.StandsAt .starting w) (hw : Sound w) (performs : j.Performs action)
    (more : List Move) :
    ∃ q, j.StandsAt q (w.run more) ∧ j.Confined action w more q (w.callsBy j.task more) :=
  stands.along hw ⟨fun c hc => absurd hc List.not_mem_nil, fun p hp => by cases hp⟩ (fun m h => h.still m)
    (fun h goes => h.goes goes hw performs) more

end Job

/-- The service goes on with a request, or it was held by nobody else. -/
theorem Sound.endsService (hw : Sound w) {r : Request} {tag : Option String} {q : JobPoint}
    (ht : w.runs t (.job r tag q)) :
    w.EndsService (.step t) ∨ (w.step t).service.active.live = w.service.active.live := by
  cases hw.registryMove (.step t) with
  | keeps kept => exact .inr kept.live
  | ends ended closed registry =>
    cases before : w.service.active.live with
    | false => exact .inr ended
    | true =>
      refine .inl ⟨Bool.eq_false_iff.mpr fun held => ?_, before, ended⟩
      have idle : Author.service ∉ w.authors (.step t) := by
        simp [authors, stepAuthors, jobAuthors, ht, held, working, answering]
      rw [((hw.move_chain (.step t)).service_kept idle).2, before] at ended
      cases ended

namespace Job

variable {j : Job} {action : Action} {more : List Move}

theorem StandsAt.touches (stands : j.StandsAt .starting w) (hs : Served w) (order : ∀ e, InOrder w e)
    (performs : j.Performs action) (more : List Move) (d : DiagramNo) : j.Touches action w more d := by
  obtain ⟨q, at', confined⟩ := stands.confined hs.sound performs more
  have served := hs.run more
  cases ready : (w.run more).isReady j.task with
  | false => constructor <;> simp [step_of_unready ready]
  | true =>
    have ht := at'.runs ready
    constructor
    case diagram =>
      refine (served.sound.endsService ht).symm.imp_left fun goesOn => ?_
      obtain ⟨u, diagrams, -, rest⟩ := Beside.step_job_rest ht
      rw [((rest d).2 (.inl goesOn)).diagram, diagrams]
    case activation =>
      -- Only the answer of a store writes, and the action asked that store of its target.
      by_cases storing : ∃ e activated due, q = .waiting ⟨.storing e activated, due⟩ ∧
          (w.run more).storeOf? e = (w.run more).storeOf? d
      · obtain ⟨e, activated, due, rfl, same⟩ := storing
        have asked := confined.made _ (confined.rests _ rfl)
        exact .inr ⟨of_decide_eq_true asked.kind.symm, e, asked.target e rfl, same⟩
      · exact .inl (Beside.step_job_activation ht fun e activated due waits same =>
          storing ⟨e, activated, due, waits, same⟩)
    case commands =>
      rcases served.commands_cases (d := d) (fun e => (order e).run hs more) (.step j.task) with
        same | ⟨t, own, ⟨token, p, ht'⟩ | ⟨r, tag, q', l, ht', -, calls, -⟩⟩
      · exact .inl same
      · obtain rfl := Move.step.inj own
        cases ht.symm.trans ht'
      · obtain rfl := Move.step.inj own
        obtain ⟨request, -, point⟩ := Activity.job.inj (Task.mk.inj (Option.some.inj (ht.symm.trans ht'))).1
        generalize (Await.attaching d l).call = c at calls
        cases calls with
        | action r tag due selected =>
          have asked := confined.made _ (confined.rests _ point)
          refine .inr ⟨?_, asked.target d rfl⟩
          cases action with
          | linkSelectedNode => rfl
          | toggleActivation => cases asked.kind
        | direct l tag =>
          rw [Performs, request] at performs
          cases performs

end Job

/-- Diagrams are independent, in whatever order they move and whatever hosts answer. -/
theorem run_keepsApart (settings : Settings) (visible : List Url) (symbols : List Symbol) (conduct : Conduct)
    (moves : List Move) (d : DiagramNo) :
    KeepsApart ((Workspace.new settings visible symbols conduct).run moves) d := by
  have start := Served.new settings visible symbols conduct
  have served := start.run moves
  have order (e : DiagramNo) := (InOrder.new settings visible symbols conduct).run (d := e) start moves
  have binding := (Binding.new settings visible symbols conduct).run (d := d) start.sound moves
  constructor
  case frame => exact fun m other => served.unaffected order other
  case others => exact fun opened e m own other apart => own.not_concerns served.sound opened other apart
  case common => exact fun m common => common.not_concerns served.sound
  case calls =>
    intro j action performs stands more c hc
    obtain ⟨q, -, confined⟩ := stands.confined served.sound performs more
    exact confined.made c hc
  case actions => exact fun j action performs stands more => stands.touches served order performs more d
  case quiet => exact fun m other => served.quiet order other
  case modes =>
    intro more
    rw [← binding.telling_run served.sound more]
    rfl

/-- Of two diagrams the second one is toggled, and the first is told nothing of it. -/
example :
    let a : Url := ⟨"file:///beside.drawio", by decide +kernel⟩
    let b : Url := ⟨"file:///toggled.drawio", by decide +kernel⟩
    let w := (Workspace.new .default [] [] (.prompt false false)).run
      [.openDiagram a (.fresh true) false true, .openDiagram b (.fresh false) false true, .step 1, .step 2]
    let more : List Move := [.send 0 .ready, .step 1, .step 3, .send 1 .ready, .step 2, .step 4, .step 4,
      .focusDiagram (some b), .request .toggle none, .step 5, .step 5, .step 3, .step 4]
    ((w.happenings 0 more).foldl Telling.next (w.telling 0)).told = [true] ∧
      ((w.happenings 1 more).foldl Telling.next (w.telling 1)).told = [false, true] ∧
      (w.happenings 0 more).length = 3 := by
  decide +kernel

end DiagramLinks
