import DiagramLinks.Proofs.Sound

namespace DiagramLinks

open Workspace

variable {a : Author} {authors : List Author} {w w' : Workspace} {t : TaskNo} {d : DiagramNo}

/-- Where a task stands that binds the selection mode of a diagram, and whether it has ended. -/
def Task.binding? (d : DiagramNo) (task : Task) : Option (ModePoint × Bool) :=
  match task.activity with
  | .selectionMode e _ p => if e = d then some (p, task.ended) else none
  | _ => none

/-- The selection mode that an event calls a diagram with. -/
def Event.modeCall? (d : DiagramNo) : Event → Option Bool
  | .called (.setSelectionMode e enabled) => if e = d then some enabled else none
  | _ => none

namespace Workspace

/-- The tasks that bind the selection mode of a diagram to its activation. -/
def bindings (w : Workspace) (d : DiagramNo) : List (ModePoint × Bool) :=
  w.tasks.filterMap (Task.binding? d)

/-- The selection modes that a diagram was called with. -/
def modeCalls (w : Workspace) (d : DiagramNo) : List Bool :=
  w.timeline (Event.modeCall? d)

/-- The session of a diagram has taken a `ready` event and handled it. -/
def HasHandledReady (w : Workspace) (d : DiagramNo) : Prop :=
  ∃ time time', [⟨time, .handled d (.ok ())⟩, ⟨time', .taken d .ready⟩] <:+: w.history

end Workspace

/-- Whether a session has bound the selection mode of a diagram. -/
def Activity.isBoundTo (d : DiagramNo) : Activity → Bool
  | session e _ p => decide (e = d) && p.isBound
  | _ => false

namespace Workspace

/-- Whether the session of a diagram has bound its selection mode. -/
def isBound (w : Workspace) (d : DiagramNo) : Bool :=
  w.tasks.any fun task => task.activity.isBoundTo d

/-- What the tasks are to the selection mode of a diagram. -/
def roles (w : Workspace) (d : DiagramNo) : List (Bool × Option (ModePoint × Bool)) :=
  w.tasks.map fun task => (task.activity.isBoundTo d, task.binding? d)

theorem isBound_eq_roles (w : Workspace) (d : DiagramNo) :
    w.isBound d = (w.roles d).any Prod.fst := by
  simp [isBound, roles, Function.comp_def]

theorem bindings_eq_roles (w : Workspace) (d : DiagramNo) :
    w.bindings d = (w.roles d).filterMap Prod.snd := by
  simp [bindings, roles, List.filterMap_map]

end Workspace

/-- The session of a diagram takes its first `ready` event. -/
def Binds (w w' : Workspace) (d : DiagramNo) : Prop :=
  ∃ t token diagram rest, w.runs t (.session d token (.idle false)) ∧
    w.diagrams[d]? = some diagram ∧ w' = w.bindMode t d token diagram.scope rest

/-- Nothing happens to the selection mode of a diagram. -/
structure Untouched (w w' : Workspace) (d : DiagramNo) : Prop where
  bound : w'.isBound d = w.isBound d
  bindings : w'.bindings d = w.bindings d
  calls : w'.modeCalls d = w.modeCalls d
  taken : ∀ e ∈ w'.history, e.event = .taken d .ready → e ∈ w.history ∨ w.isBound d = true

/-- Others than its task do not change where the binding of a selection mode stands. -/
theorem Change.roles (h : Change a w w') (ha : a ≠ .mode) (d : DiagramNo) :
    Binds w w' d ∨ w'.roles d = w.roles d ∨ w'.roles d = w.roles d ++ [(false, none)] := by
  let role (task : Task) := (task.activity.isBoundTo d, task.binding? d)
  have moved {t : TaskNo} {x : Task} {u : Workspace} {f : Task → Task} (ht : w.tasks[t]? = some x)
      (hu : u.tasks = w.tasks.modify t f) (same : role (f x) = role x) : u.roles d = w.roles d := by
    rw [Workspace.roles, hu]
    exact map_modify_of_eq ht same
  have aborted {tasks : List Task} {gone : List TaskNo}
      (ht : ∀ t : TaskNo, tasks[t]? = w.tasks[t]?.map fun task =>
        { task with aborted := task.aborted || gone.contains t }) :
      tasks.map role = w.roles d := by
    apply List.ext_getElem?
    intro i
    rw [Workspace.roles, List.getElem?_map, List.getElem?_map, ht, Option.map_map]
    rfl
  cases h with
  | highlight s l =>
    rw [highlight_eq]
    exact .inr (.inr List.map_append)
  | job q h => exact .inr (.inl (moved h rfl rfl))
  | endJob h => exact .inr (.inl (moved h rfl rfl))
  | session h same =>
    refine .inr (.inl (moved h rfl ?_))
    simp [role, Activity.isBoundTo, same, Task.binding?]
  | @bind _ t e token diagram rest h hd going inbox =>
    by_cases hed : e = d
    · subst hed
      exact .inl ⟨t, token, diagram, rest, h, hd, rfl⟩
    · refine .inr (.inr ?_)
      -- The binding of another diagram: a task that plays no role here.
      have old : (w.tasks ++ [⟨.selectionMode e (token ++ [diagram.scope.issued]) .starting, false,
          false⟩])[t]? = some ⟨.session e token (.idle false), false, false⟩ := by
        rw [List.getElem?_append_left (List.getElem?_eq_some_iff.mp h).1, h]
      refine (map_modify_of_eq old ?_).trans (List.map_append.trans ?_)
      · simp [Activity.isBoundTo, hed, Task.binding?]
      · simp [Workspace.roles, Activity.isBoundTo, Task.binding?, hed]
  | endSession h ending => exact .inr (.inl (moved h rfl rfl))
  | dropJob h => exact .inr (.inl (moved h rfl rfl))
  | dropSession h => exact .inr (.inl (moved h rfl rfl))
  | retract h => exact .inr (.inl (moved h (by rw [retract_eq]; rfl) rfl))
  | dropRetraction h => exact .inr (.inl (moved h rfl rfl))
  | request r tag => exact .inr (.inr List.map_append)
  | openDiagram id choice hasNode =>
    obtain ⟨stores, store, -, he⟩ := openDiagram_eq w id choice hasNode
    rw [he]
    refine .inr (.inr (List.map_append.trans ?_))
    simp [Workspace.roles, Activity.isBoundTo, SessionPoint.isBound, Task.binding?]
  | release e =>
    obtain ⟨tasks, he, ht⟩ := releaseSession_eq w e
    rw [he]
    exact .inr (.inl (aborted ht))
  | endService =>
    obtain ⟨tasks, he, ht⟩ := endService_eq w
    rw [he]
    exact .inr (.inl (aborted ht))
  | hide h inactive => exact .inr (.inl (moved h rfl rfl))
  | watch h active hd => exact .inr (.inl (moved h rfl rfl))
  | showWatched storeOpen h settled hd closing => exact .inr (.inl (moved h rfl rfl))
  | endStatus h ending => exact .inr (.inl (moved h rfl rfl))
  | setMode => exact absurd rfl ha
  | rest => exact absurd rfl ha
  | endMode => exact absurd rfl ha
  | _ => exact .inr (.inl rfl)

theorem isBound_of_task {x : Task} (ht : w.tasks[t]? = some x) (hx : x.activity.isBoundTo d = true) :
    w.isBound d = true :=
  List.any_eq_true.mpr ⟨x, List.mem_of_getElem? ht, hx⟩

theorem isBound_iff : w.isBound d = true ↔ ∃ (t : TaskNo) (token : Token) (p : SessionPoint) (aborted ended : Bool),
    w.tasks[t]? = some ⟨.session d token p, aborted, ended⟩ ∧ p.isBound = true := by
  constructor
  · intro any
    obtain ⟨⟨b, aborted, ended⟩, hx, toD⟩ := List.any_eq_true.mp any
    obtain ⟨t, ht⟩ := List.mem_iff_getElem?.mp hx
    cases b with
    | session e token p =>
      simp only [Activity.isBoundTo, Bool.and_eq_true, decide_eq_true_eq] at toD
      obtain ⟨rfl, bound⟩ := toD
      exact ⟨t, token, p, aborted, ended, ht, bound⟩
    | _ => cases toD
  · rintro ⟨t, token, p, aborted, ended, ht, bound⟩
    exact isBound_of_task ht (by simp [Activity.isBoundTo, bound])

/-- Only a job or a session takes an event. -/
theorem Change.taken_before (h : Change a w w') (ha : a ≠ .task) (d : DiagramNo) :
    ∀ e ∈ w'.history, e.event = .taken d .ready → e ∈ w.history := by
  intro entry hmem taken
  obtain ⟨new, hn, hr⟩ := h.history_eq
  rw [hn] at hmem
  rcases List.mem_append.mp hmem with fresh | old
  · have records := hr entry fresh
    rw [taken] at records
    cases a <;> simp_all [Author.records, Event.kind]
  · exact old

/-- A session that takes `ready` has bound the selection mode or does so now. -/
theorem Change.taken (h : Change a w w') (d : DiagramNo) :
    Binds w w' d ∨
      ∀ e ∈ w'.history, e.event = .taken d .ready → e ∈ w.history ∨ w.isBound d = true := by
  -- Only a session takes events. It binds with the first `ready`, and has bound when it takes another.
  by_cases ha : a = .task
  · subst ha
    cases h with
    | @take _ t e token bound diagram event rest h hd going inbox known =>
      right
      intro entry hmem taken
      rcases List.mem_cons.mp hmem with rfl | old
      · obtain ⟨rfl, rfl⟩ := Event.taken.inj taken
        refine .inr (isBound_of_task h ?_)
        simp [Activity.isBoundTo, SessionPoint.isBound, known rfl]
      · exact .inl old
    | handled e result =>
      right
      intro entry hmem taken
      rcases List.mem_cons.mp hmem with rfl | old
      · cases taken
      · exact .inl old
    | @bind _ t e token diagram rest h hd going inbox =>
      by_cases hed : e = d
      · subst hed
        exact .inl ⟨t, token, diagram, rest, h, hd, rfl⟩
      · right
        intro entry hmem taken
        rcases List.mem_cons.mp hmem with rfl | hmem
        · cases taken
        rcases List.mem_cons.mp hmem with rfl | old
        · exact absurd (Event.taken.inj taken).1 hed
        · exact .inl old
    | _ => exact .inr fun entry old _ => .inl old
  · exact .inr fun e he taken => .inl (h.taken_before ha d e he taken)

theorem modeCall?_eq_none {e : Event} (h : e.kind ≠ .mode) : e.modeCall? d = none := by
  unfold Event.modeCall?
  split
  · exact absurd rfl h
  · rfl

theorem Chain.modeCalls_eq (h : Chain authors w w') (no : Author.mode ∉ authors) (d : DiagramNo) :
    w'.modeCalls d = w.modeCalls d := by
  apply h.timeline_eq
  intro e a ha hr
  have ne : a ≠ .mode := fun eq => no (eq ▸ ha)
  apply modeCall?_eq_none
  intro kind
  rw [kind] at hr
  cases a <;> simp_all [Author.records]

theorem Change.untouched (h : Change a w w') (ha : a ≠ .mode) (d : DiagramNo) :
    Binds w w' d ∨ Untouched w w' d := by
  rcases h.taken d with binds | taken
  · exact .inl binds
  have calls : w'.modeCalls d = w.modeCalls d :=
    (Chain.single h).modeCalls_eq (by simpa using ha.symm) d
  rcases h.roles ha d with binds | same | same
  · exact .inl binds
  · refine .inr ⟨?_, ?_, calls, taken⟩
    · rw [isBound_eq_roles, same, isBound_eq_roles]
    · rw [bindings_eq_roles, same, bindings_eq_roles]
  · refine .inr ⟨?_, ?_, calls, taken⟩
    · simp [isBound_eq_roles, same]
    · simp [bindings_eq_roles, same]

/-- How many changes of the activation were seen at a point. -/
def ModePoint.seen? : ModePoint → Option Nat
  | starting => none
  | setting seen _ _ => some seen
  | resting seen => some seen

/-- What is known at a point of the task: the last call told the activation, unless there is news. -/
def ModePoint.Knows (w : Workspace) (d : DiagramNo) (p : ModePoint) : Prop :=
  ∃ x, w.activation? d = some x ∧
    match p.seen? with
    | none => w.modeCalls d = []
    | some seen => seen ≤ x.changes ∧ ∃ enabled, (w.modeCalls d).getLast? = some enabled ∧
      (seen = x.changes → enabled = x.value)

/-- Whether the token of the session of a diagram is cancelled. -/
def Workspace.hasStopped (w : Workspace) (d : DiagramNo) : Bool :=
  (w.diagrams[d]?.map fun x => x.scope.isCancelled [0]).getD false

/-- Why the task ends at a point: with the session, or with the store once it is up to date. -/
def ModePoint.IsOver (w : Workspace) (d : DiagramNo) (p : ModePoint) : Prop :=
  ∃ seen, p = .resting seen ∧ (w.hasStopped d = true ∨
    ∃ x, w.activation? d = some x ∧ x.live = false ∧ seen = x.changes)

/-- Where the binding of a selection mode stands: there is none, or one task that knows what it told. -/
inductive Binding (w : Workspace) (d : DiagramNo) : Prop
  | none (bound : w.isBound d = false) (bindings : w.bindings d = [])
      (untaken : ∀ e ∈ w.history, e.event ≠ .taken d .ready) (silent : w.modeCalls d = [])
  | one {p ended} (bound : w.isBound d = true) (bindings : w.bindings d = [(p, ended)])
      (handled : w.HasHandledReady d) (knows : p.Knows w d) (ending : ended = true → p.IsOver w d)

theorem ModePoint.Knows.later {p : ModePoint} (h : p.Knows w d)
    (calls : w'.modeCalls d = w.modeCalls d)
    (stores : ∀ x, w.activation? d = some x → ∃ x', w'.activation? d = some x' ∧ x.Later x') :
    p.Knows w' d := by
  obtain ⟨x, hx, told⟩ := h
  obtain ⟨x', hx', later⟩ := stores x hx
  refine ⟨x', hx', ?_⟩
  rw [calls]
  cases hp : p.seen? with
  | none => simpa [hp] using told
  | some seen =>
    simp only [hp] at told
    obtain ⟨le, enabled, last, eq⟩ := told
    refine ⟨Nat.le_trans le later.changes, enabled, last, fun same => ?_⟩
    have le' := later.changes
    -- Only an activation without a change since then has to be the one that was told.
    rw [later.value (by omega)]
    exact eq (by omega)

theorem Change.hasStopped (h : Change a w w') (hs : w.hasStopped d = true) :
    w'.hasStopped d = true := by
  unfold Workspace.hasStopped at hs ⊢
  cases hd : w.diagrams[d]? with
  | none => simp [hd] at hs
  | some x =>
    obtain ⟨x', hx', hc⟩ := h.diagram hd
    have stopped : x.scope.isCancelled [0] = true := by simpa [hd] using hs
    rw [hx']
    cases hc with
    | endSession hr ending => simp_all [Scope.isCancelled, Scope.cancel]
    | release => simp [Scope.isCancelled, Scope.release, Scope.cancel, Scope.root]
    | _ => exact stopped

theorem ModePoint.IsOver.change {p : ModePoint} (h : p.IsOver w d) (hc : Change a w w') :
    p.IsOver w' d := by
  rcases h with ⟨seen, rfl, stopped | ⟨x, hx, closed, eq⟩⟩
  · exact ⟨seen, rfl, .inl (hc.hasStopped stopped)⟩
  · obtain ⟨x', hx', later⟩ := hc.later hx
    obtain rfl := later.closed closed
    exact ⟨seen, rfl, .inr ⟨x', hx', closed, eq⟩⟩

theorem Change.hasHandledReady (h : Change a w w') (hr : w.HasHandledReady d) :
    w'.HasHandledReady d := by
  obtain ⟨time, time', inside⟩ := hr
  obtain ⟨new, hn, -⟩ := h.history_eq
  refine ⟨time, time', ?_⟩
  rw [hn]
  exact inside.trans (List.suffix_append _ _).isInfix

theorem Binding.untouched (h : Binding w d) (hc : Change a w w') (same : Untouched w w' d) :
    Binding w' d := by
  cases h with
  | none bound bindings untaken silent =>
    refine .none (same.bound.trans bound) (same.bindings.trans bindings) ?_ (same.calls.trans silent)
    intro e he taken
    rcases same.taken e he taken with old | now
    · exact untaken e old taken
    · rw [bound] at now
      cases now
  | one bound bindings handled knows ending =>
    refine .one (same.bound.trans bound) (same.bindings.trans bindings) (hc.hasHandledReady handled)
      ?_ ?_
    · exact knows.later same.calls fun x hx => hc.later hx
    · exact fun ended => (ending ended).change hc

theorem isBound_of_binds (hw : Sound w) (h : Binds w w' d) : w.isBound d = false := by
  obtain ⟨t, token, diagram, rest, ht, hd, -⟩ := h
  apply Bool.eq_false_iff.mpr
  intro any
  obtain ⟨t', token', p, aborted, ended, ht', bound⟩ := isBound_iff.mp any
  -- A diagram has one session, so the one that is bound is the one that binds.
  have s := spawned_of_task ht
  have s' := spawned_of_task ht'
  obtain ⟨rfl, -⟩ := hw.roster.session t d token s
  obtain ⟨rfl, -⟩ := hw.roster.session t' d token' s'
  obtain rfl := hw.roster.unique t t' d s s'
  obtain ⟨hp, -⟩ := Task.mk.inj (Option.some.inj (ht.symm.trans ht'))
  obtain ⟨-, -, rfl⟩ := Activity.session.inj hp
  cases bound

theorem bindings_of_binds (h : Binds w w' d) (none : w.bindings d = []) :
    w'.bindings d = [(.starting, false)] := by
  obtain ⟨t, token, diagram, rest, ht, -, rfl⟩ := h
  let binding : Task := ⟨.selectionMode d (token ++ [diagram.scope.issued]) .starting, false, false⟩
  have old : (w.tasks ++ [binding])[t]? = some ⟨.session d token (.idle false), false, false⟩ := by
    rw [List.getElem?_append_left (List.getElem?_eq_some_iff.mp ht).1, ht]
  refine (filterMap_modify_of_eq (g := Task.binding? d) old rfl).trans ?_
  change w.tasks.filterMap (Task.binding? d) = [] at none
  simp [none, binding, Task.binding?]

/-- The first `ready` event starts the one task. -/
theorem Binding.binds (h : Binding w d) (hw : Sound w) (hc : Change a w w') (ha : a ≠ .mode)
    (hb : Binds w w' d) : Binding w' d := by
  have unbound := isBound_of_binds hw hb
  cases h with
  | one bound =>
    rw [unbound] at bound
    cases bound
  | none bound bindings untaken silent =>
    have calls : w'.modeCalls d = w.modeCalls d :=
      (Chain.single hc).modeCalls_eq (by simpa using ha.symm) d
    have begun := bindings_of_binds hb bindings
    obtain ⟨t, token, diagram, rest, ht, hd, rfl⟩ := hb
    let binding : Task := ⟨.selectionMode d (token ++ [diagram.scope.issued]) .starting, false, false⟩
    have old : (w.tasks ++ [binding])[t]? = some ⟨.session d token (.idle false), false, false⟩ := by
      rw [List.getElem?_append_left (List.getElem?_eq_some_iff.mp ht).1, ht]
    refine .one ?_ begun ?_ ?_ nofun
    · have now : (w.bindMode t d token diagram.scope rest).runs t (.session d token (.idle true)) :=
        runs_moveTo old
      exact isBound_of_task now (by simp [Activity.isBoundTo, SessionPoint.isBound])
    · exact ⟨w.now, w.now, (List.prefix_append _ _).isInfix⟩
    · obtain ⟨x, hx⟩ := hw.activation (hw.roster.session t d token (spawned_of_task ht)).2
      obtain ⟨x', hx', -⟩ := hc.later hx
      exact ⟨x', hx', calls.trans silent⟩

/-- What its task does to the binding of a selection mode, with the calls that it makes. -/
inductive ModeChange (w : Workspace) (d : DiagramNo) :
    ModePoint × Bool → ModePoint × Bool → List Bool → Prop
  | call {p x} (due : Nat) (hx : w.activation? d = some x)
      (news : p = .starting ∨ ∃ seen, p = .resting seen ∧ x.isNews seen = true) :
      ModeChange w d (p, false) (.setting x.changes x.value due, false) [x.value]
  | rest {seen enabled due} :
      ModeChange w d (.setting seen enabled due, false) (.resting seen, false) []
  | finish {p} (ending : p.IsOver w d) : ModeChange w d (p, false) (p, true) []

theorem Change.mode_frame (h : Change .mode w w') :
    w'.diagrams = w.diagrams ∧ w'.stores = w.stores := by
  cases h <;> exact ⟨rfl, rfl⟩

theorem Sound.isCancelled_child (hw : Sound w) {x : Diagram} (hx : w.diagrams[d]? = some x)
    (k : Nat) : x.scope.isCancelled [0, k] = x.scope.isCancelled [0] := by
  rw [Bool.eq_iff_iff]
  simp only [Scope.isCancelled, List.any_eq_true]
  constructor
  · rintro ⟨token, ht, -⟩
    refine ⟨token, ht, ?_⟩
    rcases hw.cancelled x (List.mem_of_getElem? hx) token ht with rfl | rfl <;> rfl
  · rintro ⟨token, ht, -⟩
    refine ⟨token, ht, ?_⟩
    rcases hw.cancelled x (List.mem_of_getElem? hx) token ht with rfl | rfl <;> rfl

/-- What a step of a selection mode's task does, and to which diagram. -/
theorem Change.mode_cases (hw : Sound w) (h : Change .mode w w') :
    ∃ (t : TaskNo) (e : DiagramNo) (token : Token) (p p' : ModePoint) (ended : Bool)
      (calls : List Bool) (f : Task → Task),
      w.tasks[t]? = some ⟨.selectionMode e token p, false, false⟩ ∧
      w'.tasks = w.tasks.modify t f ∧
      f ⟨.selectionMode e token p, false, false⟩ = ⟨.selectionMode e token p', false, ended⟩ ∧
      ModeChange w e (p, false) (p', ended) calls ∧
      ∀ d, w'.modeCalls d = w.modeCalls d ++ if e = d then calls else [] := by
  cases h with
  | @setMode _ t e token p x h hx due =>
    refine ⟨t, e, token, p, _, false, _, _, h, rfl, rfl, .call _ hx due, fun d => ?_⟩
    refine (timeline_record w (.called (.setSelectionMode e x.value)) (Event.modeCall? d)).trans ?_
    simp only [Event.modeCall?]
    split <;> rfl
  | @rest _ t e token seen enabled due event h plain =>
    refine ⟨t, e, token, _, _, false, _, _, h, rfl, rfl, .rest, fun d => ?_⟩
    have none : event.modeCall? d = none := modeCall?_eq_none (by simp [plain])
    refine (timeline_record w event (Event.modeCall? d)).trans ?_
    simp [none, modeCalls]
  | @endMode _ t e token p aborted h ending =>
    -- Selection modes are never aborted.
    obtain rfl : aborted = false := hw.not_aborted h rfl
    obtain ⟨⟨k, rfl⟩, valid⟩ := hw.roster.mode t e token (spawned_of_task h)
    refine ⟨t, e, _, p, p, true, _, _, h, rfl, rfl, .finish ?_, fun d => ?_⟩
    · rcases ending with ending | none | none | ⟨x, y, seen, hx, hy, rfl, cancelled | ⟨old, closed⟩⟩
      · cases ending
      · rw [List.getElem?_eq_getElem valid] at none
        cases none
      · obtain ⟨x, hx⟩ := hw.activation valid
        rw [hx] at none
        cases none
      · rw [hw.isCancelled_child hx] at cancelled
        exact ⟨seen, rfl, .inl (by simp [Workspace.hasStopped, hx, cancelled])⟩
      · exact ⟨seen, rfl, .inr ⟨y, hy, closed, isNews_eq_false.mp old⟩⟩
    · simp only [ite_self, List.append_nil]
      rfl

/-- A step of a selection mode's task either belongs to another diagram or moves the binding. -/
theorem Change.mode (hw : Sound w) (h : Change .mode w w') (d : DiagramNo) :
    Untouched w w' d ∨ ∃ before after b b' calls, ModeChange w d b b' calls ∧
      w.bindings d = before ++ b :: after ∧ w'.bindings d = before ++ b' :: after ∧
      w'.modeCalls d = w.modeCalls d ++ calls ∧ w'.isBound d = w.isBound d := by
  obtain ⟨t, e, token, p, p', ended, calls, f, ht, tasks, moved, changed, called⟩ := h.mode_cases hw
  -- Sessions are left alone.
  have bound : w'.isBound d = w.isBound d := by
    have same : w'.tasks.map (fun task => task.activity.isBoundTo d) =
        w.tasks.map fun task => task.activity.isBoundTo d := by
      rw [tasks]
      exact map_modify_of_eq ht (by rw [moved]; rfl)
    have any (u : Workspace) :
        u.isBound d = (u.tasks.map fun task => task.activity.isBoundTo d).any id := by
      simp [isBound, List.any_map]
    rw [any, same, any]
  by_cases other : e = d
  · subst other
    obtain ⟨before, after, split, modified⟩ := exists_split ht
    refine .inr ⟨before.filterMap (Task.binding? e), after.filterMap (Task.binding? e), _, _, calls,
      changed, ?_, ?_, ?_, bound⟩
    · rw [bindings, split, List.filterMap_append, List.filterMap_cons]
      simp [Task.binding?]
    · rw [bindings, tasks, modified, List.filterMap_append, List.filterMap_cons, moved]
      simp [Task.binding?]
    · rw [called, if_pos rfl]
  · refine .inl ⟨bound, ?_, ?_, fun e he h' => .inl (h.taken_before (by simp) d e he h')⟩
    · rw [bindings, tasks]
      apply filterMap_modify_of_eq ht
      rw [moved]
      simp [Task.binding?, other]
    · rw [called, if_neg other, List.append_nil]

theorem ModeChange.knows {b b' : ModePoint × Bool} {calls : List Bool} (h : ModeChange w d b b' calls)
    (knows : b.1.Knows w d) (ending : b.2 = true → b.1.IsOver w d)
    (same : w'.activation? d = w.activation? d) (stopped : w'.hasStopped d = w.hasStopped d)
    (called : w'.modeCalls d = w.modeCalls d ++ calls) :
    b'.1.Knows w' d ∧ (b'.2 = true → b'.1.IsOver w' d) := by
  cases h with
  | @call p x due hx news =>
    refine ⟨⟨x, same.trans hx, ?_⟩, nofun⟩
    exact ⟨Nat.le_refl _, x.value, by simp [called], fun _ => rfl⟩
  | @rest seen enabled due =>
    obtain ⟨x, hx, told⟩ := knows
    rw [List.append_nil] at called
    exact ⟨⟨x, same.trans hx, by rw [called]; exact told⟩, nofun⟩
  | @finish p why =>
    obtain ⟨x, hx, told⟩ := knows
    rw [List.append_nil] at called
    refine ⟨⟨x, same.trans hx, by rw [called]; exact told⟩, fun _ => ?_⟩
    obtain ⟨seen, rfl, why⟩ := why
    refine ⟨seen, rfl, ?_⟩
    rw [stopped, same]
    exact why

theorem mem_of_singleton {α : Type} {l : List α} {b : α} (h : l = [b]) : b ∈ l := by
  rw [h]
  exact List.mem_singleton_self b

theorem eq_of_singleton {α : Type} {before after : List α} {b c : α}
    (h : [c] = before ++ b :: after) : before = [] ∧ b = c ∧ after = [] := by
  simpa [List.append_eq_singleton_iff] using h.symm

theorem Change.mode_same (h : Change .mode w w') (d : DiagramNo) :
    w'.activation? d = w.activation? d ∧ w'.hasStopped d = w.hasStopped d := by
  obtain ⟨diagrams, stores⟩ := h.mode_frame
  constructor
  · rw [activation?, activation?, diagrams, stores]
  · rw [Workspace.hasStopped, Workspace.hasStopped, diagrams]

namespace Binding

theorem mode (h : Binding w d) (hw : Sound w) (hc : Change .mode w w') : Binding w' d := by
  rcases hc.mode hw d with same | ⟨before, after, b, b', calls, changed, old, new, called, bound'⟩
  · exact h.untouched hc same
  · obtain ⟨same, stopped⟩ := hc.mode_same d
    cases h with
    | none bound bindings untaken silent =>
      rw [bindings] at old
      cases before <;> cases old
    | one bound bindings handled knows ending =>
      rw [bindings] at old
      obtain ⟨rfl, rfl, rfl⟩ := eq_of_singleton old
      obtain ⟨knows', ending'⟩ := changed.knows knows ending same stopped called
      exact .one (bound'.trans bound) new (hc.hasHandledReady handled) knows' ending'

theorem change (h : Binding w d) (hw : Sound w) (hc : Change a w w') : Binding w' d := by
  by_cases ha : a = .mode
  · subst ha
    exact h.mode hw hc
  · rcases hc.untouched ha d with binds | same
    · exact h.binds hw hc ha binds
    · exact h.untouched hc same

theorem move (h : Binding w d) (hw : Sound w) (m : Move) : Binding (w.move m) d :=
  hw.keeps_chain (P := fun u => Binding u d) h (fun hu h hc => h.change hu hc) (hw.move_chain m)

theorem run (h : Binding w d) (hw : Sound w) (moves : List Move) : Binding (w.run moves) d :=
  hw.keeps_run (P := fun u => Binding u d) h (fun hu h hc => h.change hu hc) moves

theorem new (settings : Settings) (visible : List Url) (symbols : List Symbol) (conduct : Conduct) :
    Binding (.new settings visible symbols conduct) d := by
  refine .none rfl rfl (fun e he => ?_) rfl
  obtain rfl := List.mem_singleton.mp he
  nofun

theorem of_mem (h : Binding w d) {p : ModePoint} {ended : Bool} (hm : (p, ended) ∈ w.bindings d) :
    w.bindings d = [(p, ended)] ∧ w.HasHandledReady d ∧ p.Knows w d ∧
      (ended = true → p.IsOver w d) := by
  cases h with
  | none bound bindings =>
    rw [bindings] at hm
    cases hm
  | one bound bindings handled knows ending =>
    rw [bindings] at hm
    obtain ⟨rfl, rfl⟩ := Prod.mk.inj (List.mem_singleton.mp hm)
    exact ⟨bindings, handled, knows, ending⟩

end Binding

end DiagramLinks
