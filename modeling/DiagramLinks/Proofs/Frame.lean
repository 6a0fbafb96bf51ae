import DiagramLinks.Proofs.Change

namespace DiagramLinks

open Workspace

variable {a : Author} {authors : List Author} {w w' : Workspace} {t : TaskNo} {d : DiagramNo}

/-- What the events are about that an author records. -/
def Author.records : Author → EventKind → Bool
  | activity, .plain => true
  | reveal, .plain => true
  | reveal, .decoration => true
  | task, .session => true
  | retraction, .decoration => true
  | host, .inbox => true
  | status, .indicator => true
  | mode, .mode => true
  | mode, .plain => true
  | _, _ => false

theorem Change.history_eq (h : Change a w w') :
    ∃ new, w'.history = new ++ w.history ∧ ∀ e ∈ new, a.records e.event.kind = true := by
  have same {u : Workspace} (hu : u.history = w.history) :
      ∃ new, u.history = new ++ w.history ∧ ∀ e ∈ new, a.records e.event.kind = true :=
    ⟨[], hu, by simp⟩
  cases h with
  | note plain => exact ⟨[_], rfl, by simp [Author.records, plain]⟩
  | highlight s l =>
    rw [highlight_eq]
    refine ⟨_, rfl, fun e he => ?_⟩
    obtain ⟨event, hevent, rfl⟩ := List.mem_map.mp he
    simp only [highlightEvents, clearing, List.mem_cons, List.mem_append, Option.mem_toList,
      Option.map_eq_some_iff, List.not_mem_nil, or_false] at hevent
    rcases hevent with rfl | rfl | ⟨h, -, rfl⟩ | rfl | rfl <;> rfl
  | take h hd going inbox known => exact ⟨[_], rfl, by simp [Author.records, Event.kind]⟩
  | handled d result => exact ⟨[_], rfl, by simp [Author.records, Event.kind]⟩
  | bind h hd going inbox => exact ⟨[_, _], rfl, by simp [Author.records, Event.kind]⟩
  | retract h =>
    rw [retract_eq]
    exact ⟨[_], rfl, by simp [Author.records, Event.kind]⟩
  | send e hd sending receiving => exact ⟨[_], rfl, by simp [Author.records, Event.kind]⟩
  | openDiagram id choice hasNode =>
    obtain ⟨stores, store, -, he⟩ := openDiagram_eq w id choice hasNode
    exact same (by rw [he])
  | release d =>
    obtain ⟨tasks, he, -⟩ := releaseSession_eq w d
    exact same (by rw [he])
  | endService =>
    obtain ⟨tasks, he, -⟩ := endService_eq w
    exact same (by rw [he])
  | hide h inactive => exact ⟨[_], rfl, by simp [Author.records, Event.kind]⟩
  | watch h active ha => exact ⟨[_], rfl, by simp [Author.records, Event.kind]⟩
  | showWatched storeOpen h settled ha closing =>
    exact ⟨[_], rfl, by simp [Author.records, Event.kind]⟩
  | setMode h ha due => exact ⟨[_], rfl, by simp [Author.records, Event.kind]⟩
  | rest h plain => exact ⟨[_], rfl, by simp [Author.records, plain]⟩
  | _ => exact same rfl

theorem Chain.history_eq (h : Chain authors w w') :
    ∃ new, w'.history = new ++ w.history ∧
      ∀ e ∈ new, ∃ a ∈ authors, a.records e.event.kind = true := by
  refine h.keeps (P := fun u => ∃ new, u.history = new ++ w.history ∧
    ∀ e ∈ new, ∃ a ∈ authors, a.records e.event.kind = true) ⟨[], rfl, by simp⟩ ?_
  rintro a ha u u' ⟨new, hu, hn⟩ hc
  obtain ⟨more, hm, hr⟩ := hc.history_eq
  refine ⟨more ++ new, by rw [hm, hu, List.append_assoc], fun e he => ?_⟩
  rcases List.mem_append.mp he with he | he
  · exact ⟨a, ha, hr e he⟩
  · exact hn e he

/-- A view of the history stays the same when nobody takes part who records what it shows. -/
theorem Chain.timeline_eq {α : Type} {f : Event → Option α} (h : Chain authors w w')
    (blind : ∀ e a, a ∈ authors → a.records e.kind = true → f e = none) :
    w'.timeline f = w.timeline f := by
  obtain ⟨new, hn, hr⟩ := h.history_eq
  have none : new.filterMap (fun e => f e.event) = [] := by
    apply List.filterMap_eq_nil_iff.mpr
    intro e he
    obtain ⟨a, ha, h⟩ := hr e he
    exact blind _ _ ha h
  simp only [timeline, hn, List.filterMap_append, none, List.nil_append]

theorem timeline_record {α : Type} (w : Workspace) (e : Event) (f : Event → Option α) :
    (w.record e).timeline f = w.timeline f ++ (f e).toList := by
  unfold timeline record
  cases h : f e <;> simp [h]

/-- The activities that an author moves, ends or aborts. -/
def Author.owns : Author → Activity → Bool
  | task, b => b.isWork
  | retraction, .retraction _ _ => true
  | service, .status _ _ => true
  | service, .session _ _ _ => true
  | status, .status _ _ => true
  | mode, .selectionMode _ _ _ => true
  | _, _ => false

theorem getElem?_modify_of_owned {tasks : List Task} {s : TaskNo} {x y : Task} (f : Task → Task)
    (ht : tasks[t]? = some x) (hs : tasks[s]? = some y) (no : a.owns x.activity = false)
    (yes : a.owns y.activity = true) : (tasks.modify s f)[t]? = some x := by
  have ne : s ≠ t := by
    rintro rfl
    obtain rfl := Option.some.inj (ht.symm.trans hs)
    rw [no] at yes
    cases yes
  simp [ne, ht]

/-- Authors leave the tasks alone that they do not own; what the service does to its own tasks is told
by `releaseSession_eq` and `endService_eq`. -/
theorem Change.task_eq {x : Task} (h : Change a w w') (ha : a ≠ .service)
    (ht : w.tasks[t]? = some x) (no : a.owns x.activity = false) : w'.tasks[t]? = some x := by
  have old {b : Task} : (w.tasks ++ [b])[t]? = some x := by
    rw [List.getElem?_append_left (List.getElem?_eq_some_iff.mp ht).1, ht]
  cases h with
  | highlight s l =>
    rw [highlight_eq]
    exact old
  | job q h => exact getElem?_modify_of_owned _ ht h no rfl
  | endJob h => exact getElem?_modify_of_owned _ ht h no rfl
  | session h same => exact getElem?_modify_of_owned _ ht h no rfl
  | @bind _ t d token diagram rest h hd going inbox =>
    -- The session keeps its number, as the new task stands behind it.
    refine getElem?_modify_of_owned _ old ?_ no
      (y := ⟨.session d token (.idle false), false, false⟩) rfl
    exact (List.getElem?_append_left (List.getElem?_eq_some_iff.mp h).1).trans h
  | endSession h ending => exact getElem?_modify_of_owned _ ht h no rfl
  | dropJob h => exact getElem?_modify_of_owned _ ht h no rfl
  | dropSession h => exact getElem?_modify_of_owned _ ht h no rfl
  | retract h =>
    rw [retract_eq]
    exact getElem?_modify_of_owned _ ht h no rfl
  | dropRetraction h => exact getElem?_modify_of_owned _ ht h no rfl
  | request r tag => exact old
  | openDiagram id choice hasNode =>
    obtain ⟨stores, store, -, he⟩ := openDiagram_eq w id choice hasNode
    rw [he]
    exact old
  | hide h inactive => exact getElem?_modify_of_owned _ ht h no rfl
  | watch h active hd => exact getElem?_modify_of_owned _ ht h no rfl
  | showWatched storeOpen h settled hd closing => exact getElem?_modify_of_owned _ ht h no rfl
  | endStatus h ending => exact getElem?_modify_of_owned _ ht h no rfl
  | setMode h hd due => exact getElem?_modify_of_owned _ ht h no rfl
  | rest h plain => exact getElem?_modify_of_owned _ ht h no rfl
  | endMode h ending => exact getElem?_modify_of_owned _ ht h no rfl
  | register => exact absurd rfl ha
  | unregister => exact absurd rfl ha
  | focus => exact absurd rfl ha
  | activate => exact absurd rfl ha
  | release => exact absurd rfl ha
  | endService => exact absurd rfl ha
  | letGo => exact absurd rfl ha
  | _ => exact ht

/-- The service does no more to a task than to abort it. -/
theorem Change.service_task {x : Task} (h : Change .service w w') (ht : w.tasks[t]? = some x) :
    ∃ aborted, w'.tasks[t]? = some { x with aborted } := by
  cases h with
  | release d =>
    obtain ⟨tasks, he, hm⟩ := releaseSession_eq w d
    rw [he]
    exact ⟨_, (hm t).trans (by rw [ht]; rfl)⟩
  | endService =>
    obtain ⟨tasks, he, hm⟩ := endService_eq w
    rw [he]
    exact ⟨_, (hm t).trans (by rw [ht]; rfl)⟩
  | _ => exact ⟨_, ht⟩

/-- The activity as it was spawned. -/
def Activity.origin : Activity → Activity
  | status token _ => .status token .starting
  | selectionMode d token _ => .selectionMode d token .starting
  | session d token _ => .session d token .starting
  | retraction h due => .retraction h due
  | job r tag _ => .job r tag .starting

/-- The tasks as they were spawned, each with whether it was aborted. -/
def Workspace.roster (w : Workspace) : List (Activity × Bool) :=
  w.tasks.map fun task => (task.activity.origin, task.aborted)

def Workspace.spawned (w : Workspace) : List Activity :=
  w.tasks.map fun task => task.activity.origin

theorem spawned_eq_roster (w : Workspace) : w.spawned = w.roster.map Prod.fst := by
  simp [spawned, roster]

/-- What an author spawns. -/
inductive Spawns (w : Workspace) : Author → Activity → Prop
  | retraction (s : Settings) (l : Location) :
      Spawns w .reveal (.retraction (w.nextHighlight s l) (w.now + s.duration.toNat))
  | selectionMode {t d token diagram} (h : w.runs t (.session d token (.idle false)))
      (hd : w.diagrams[d]? = some diagram) :
      Spawns w .task (.selectionMode d (token ++ [diagram.scope.issued]) .starting)
  | job (r : Request) (tag : Option String) : Spawns w .host (.job r tag .starting)
  | session : Spawns w .opening (.session w.diagrams.length [0] .starting)

theorem exists_split {α : Type} {l : List α} {i : Nat} {x : α} (h : l[i]? = some x) :
    ∃ before after, l = before ++ x :: after ∧ ∀ f, l.modify i f = before ++ f x :: after := by
  obtain ⟨hi, rfl⟩ := List.getElem?_eq_some_iff.mp h
  have modified (f : α → α) := List.modify_eq_take_cons_drop (f := f) hi
  refine ⟨_, _, ?_, modified⟩
  have same := modified id
  rwa [List.modify_id] at same

theorem map_modify_of_eq {α : Type} {tasks : List Task} {x : Task} {f : Task → Task} {g : Task → α}
    (ht : tasks[t]? = some x) (same : g (f x) = g x) : (tasks.modify t f).map g = tasks.map g := by
  obtain ⟨before, after, split, modified⟩ := exists_split ht
  rw [modified, split, List.map_append, List.map_append, List.map_cons, List.map_cons, same]

theorem filterMap_modify_of_eq {α : Type} {tasks : List Task} {x : Task} {f : Task → Task}
    {g : Task → Option α} (ht : tasks[t]? = some x) (same : g (f x) = g x) :
    (tasks.modify t f).filterMap g = tasks.filterMap g := by
  obtain ⟨before, after, split, modified⟩ := exists_split ht
  rw [modified, split, List.filterMap_append, List.filterMap_append, List.filterMap_cons,
    List.filterMap_cons, same]

/-- Tasks keep their place, what they do and whether they were aborted, except that the service aborts
some of its own. -/
theorem Change.roster_eq (h : Change a w w') (ha : a ≠ .service) :
    w'.roster = w.roster ∨ ∃ b, Spawns w a b ∧ w'.roster = w.roster ++ [(b, false)] := by
  have moved {t : TaskNo} {x : Task} {u : Workspace} {f : Task → Task} (ht : w.tasks[t]? = some x)
      (hu : u.tasks = w.tasks.modify t f)
      (same : ((f x).activity.origin, (f x).aborted) = (x.activity.origin, x.aborted)) :
      u.roster = w.roster := by
    rw [roster, hu]
    exact map_modify_of_eq ht same
  -- A new task was not aborted.
  have born {u : Workspace} (b : Activity) (hu : u.tasks = w.tasks ++ [⟨b, false, false⟩]) :
      u.roster = w.roster ++ [(b.origin, false)] := by
    simp [roster, hu]
  cases h with
  | highlight s l =>
    rw [highlight_eq]
    exact .inr ⟨_, .retraction s l, born (.retraction _ _) rfl⟩
  | job q h => exact .inl (moved h rfl rfl)
  | endJob h => exact .inl (moved h rfl rfl)
  | session h same => exact .inl (moved h rfl rfl)
  | @bind _ t d token diagram rest h hd going inbox =>
    refine .inr ⟨_, .selectionMode h hd, ?_⟩
    refine (map_modify_of_eq (x := ⟨.session d token (.idle false), false, false⟩) ?_ rfl).trans
      List.map_append
    exact (List.getElem?_append_left (List.getElem?_eq_some_iff.mp h).1).trans h
  | endSession h ending => exact .inl (moved h rfl rfl)
  | dropJob h => exact .inl (moved h rfl rfl)
  | dropSession h => exact .inl (moved h rfl rfl)
  | retract h => exact .inl (moved h (by rw [retract_eq]; rfl) rfl)
  | dropRetraction h => exact .inl (moved h rfl rfl)
  | request r tag => exact .inr ⟨_, .job r tag, born (.job r tag .starting) rfl⟩
  | openDiagram id choice hasNode =>
    obtain ⟨stores, store, -, he⟩ := openDiagram_eq w id choice hasNode
    rw [he]
    exact .inr ⟨_, .session, born (.session w.diagrams.length [0] .starting) rfl⟩
  | hide h inactive => exact .inl (moved h rfl rfl)
  | watch h active hd => exact .inl (moved h rfl rfl)
  | showWatched storeOpen h settled hd closing => exact .inl (moved h rfl rfl)
  | endStatus h ending => exact .inl (moved h rfl rfl)
  | setMode h hd due => exact .inl (moved h rfl rfl)
  | rest h plain => exact .inl (moved h rfl rfl)
  | endMode h ending => exact .inl (moved h rfl rfl)
  | register => exact absurd rfl ha
  | unregister => exact absurd rfl ha
  | focus => exact absurd rfl ha
  | activate => exact absurd rfl ha
  | release => exact absurd rfl ha
  | endService => exact absurd rfl ha
  | letGo => exact absurd rfl ha
  | _ => exact .inl rfl

theorem Change.spawned_eq (h : Change a w w') :
    w'.spawned = w.spawned ∨ ∃ b, Spawns w a b ∧ w'.spawned = w.spawned ++ [b] := by
  have aborted {tasks : List Task} {gone : List TaskNo}
      (ht : ∀ t : TaskNo, tasks[t]? = w.tasks[t]?.map fun task =>
        { task with aborted := task.aborted || gone.contains t }) :
      (tasks.map fun task => task.activity.origin) = w.spawned := by
    apply List.ext_getElem?
    intro i
    rw [spawned, List.getElem?_map, List.getElem?_map, ht, Option.map_map]
    rfl
  by_cases ha : a = .service
  · subst ha
    cases h with
    | release d =>
      obtain ⟨tasks, he, ht⟩ := releaseSession_eq w d
      rw [he]
      exact .inl (aborted ht)
    | endService =>
      obtain ⟨tasks, he, ht⟩ := endService_eq w
      rw [he]
      exact .inl (aborted ht)
    | _ => exact .inl rfl
  · rcases h.roster_eq ha with same | ⟨b, hb, born⟩
    · exact .inl (by rw [spawned_eq_roster, same, spawned_eq_roster])
    · exact .inr ⟨b, hb, by simp [spawned_eq_roster, born]⟩

/-- What a change does to a diagram. -/
inductive DiagramChange (w : Workspace) (d : DiagramNo) (x : Diagram) : Author → Diagram → Prop
  | same {a : Author} : DiagramChange w d x a x
  | take {e rest} (inbox : x.inbox = e :: rest) :
      DiagramChange w d x .task { x with inbox := rest }
  | bind {rest} (inbox : x.inbox = .ready :: rest) (issued : Nat) :
      DiagramChange w d x .task { x with inbox := rest, scope := { x.scope with issued } }
  | endSession {t token p} (h : w.runs t (.session d token p))
      (ending : x.scope.isCancelled token = true ∨ x.inbox = [] ∧ x.sending = false) :
      DiagramChange w d x .task
        { x with scope := x.scope.cancel token, receiving := false, inbox := [] }
  | drop {t : TaskNo} {token p} (h : w.tasks[t]? = some ⟨.session d token p, true, false⟩) :
      DiagramChange w d x .task { x with receiving := false, inbox := [] }
  | send (e : DiagramEvent) (sending : x.sending = true) (receiving : x.receiving = true) :
      DiagramChange w d x .host { x with inbox := x.inbox ++ [e] }
  | endEvents : DiagramChange w d x .host { x with sending := false }
  | setNode (hasNode : Bool) : DiagramChange w d x .host { x with hasNode }
  | release : DiagramChange w d x .service { x with scope := x.scope.release.1 }

/-- What a change does to the diagram that it modifies, and that it leaves the others alone. -/
theorem DiagramChange.modify {x : Diagram} {e : DiagramNo} {diagrams : List Diagram}
    {f : Diagram → Diagram} (hw : w.diagrams[d]? = some x) (he : diagrams = w.diagrams.modify e f)
    (changed : e = d → DiagramChange w d x a (f x)) :
    ∃ x', diagrams[d]? = some x' ∧ DiagramChange w d x a x' := by
  by_cases h : e = d
  · exact ⟨f x, by simp [he, h, hw], changed h⟩
  · exact ⟨x, by simp [he, h, hw], .same⟩

theorem Change.diagram {x : Diagram} (h : Change a w w') (hw : w.diagrams[d]? = some x) :
    ∃ x', w'.diagrams[d]? = some x' ∧ DiagramChange w d x a x' := by
  have same {u : Workspace} (hu : u.diagrams = w.diagrams) :
      ∃ x', u.diagrams[d]? = some x' ∧ DiagramChange w d x a x' :=
    ⟨x, by rw [hu, hw], .same⟩
  cases h with
  | highlight s l => exact same (by rw [highlight_eq])
  | take h hd going inbox known =>
    apply DiagramChange.modify hw rfl
    rintro rfl
    obtain rfl := Option.some.inj (hd.symm.trans hw)
    exact .take inbox
  | @bind _ t e token diagram rest h hd going inbox =>
    refine DiagramChange.modify hw (e := e)
      (f := fun x => { x with inbox := rest, scope := (diagram.scope.issue token).1 }) ?_ ?_
    · exact (List.modify_modify_eq _ _ _ _).trans rfl
    · rintro rfl
      obtain rfl := Option.some.inj (hd.symm.trans hw)
      exact .bind inbox _
  | endSession h ending =>
    apply DiagramChange.modify hw rfl
    rintro rfl
    exact .endSession h (ending x hw)
  | dropSession h =>
    apply DiagramChange.modify hw rfl
    rintro rfl
    exact .drop h
  | retract h => exact same (by rw [retract_eq]; rfl)
  | send event hd sending receiving =>
    apply DiagramChange.modify hw rfl
    rintro rfl
    obtain rfl := Option.some.inj (hd.symm.trans hw)
    exact .send event sending receiving
  | endEvents e => exact DiagramChange.modify hw rfl fun _ => .endEvents
  | setNode e hasNode => exact DiagramChange.modify hw rfl fun _ => .setNode hasNode
  | openDiagram id choice hasNode =>
    obtain ⟨stores, store, -, he⟩ := openDiagram_eq w id choice hasNode
    refine ⟨x, ?_, .same⟩
    rw [he]
    exact (List.getElem?_append_left (List.getElem?_eq_some_iff.mp hw).1).trans hw
  | release e =>
    obtain ⟨tasks, he, -⟩ := releaseSession_eq w e
    exact DiagramChange.modify hw (by rw [he]) fun _ => .release
  | endService =>
    obtain ⟨tasks, he, -⟩ := endService_eq w
    exact same (by rw [he])
  | _ => exact same rfl

theorem Change.diagrams_length (h : Change a w w') (ha : a ≠ .opening) :
    w'.diagrams.length = w.diagrams.length := by
  cases h with
  | highlight s l => rw [highlight_eq]
  | take h hd going inbox known => exact List.length_modify ..
  | bind h hd going inbox => exact (List.length_modify ..).trans (List.length_modify ..)
  | endSession h ending => exact List.length_modify ..
  | dropSession h => exact List.length_modify ..
  | retract h => rw [retract_eq]; rfl
  | send event hd sending receiving => exact List.length_modify ..
  | endEvents e => exact List.length_modify ..
  | setNode e hasNode => exact List.length_modify ..
  | openDiagram id choice hasNode => exact absurd rfl ha
  | release e =>
    obtain ⟨tasks, he, -⟩ := releaseSession_eq w e
    rw [he]
    exact List.length_modify ..
  | endService =>
    obtain ⟨tasks, he, -⟩ := endService_eq w
    rw [he]
  | _ => rfl

theorem Change.diagram_before {x' : Diagram} (h : Change a w w') (ha : a ≠ .opening)
    (hx : w'.diagrams[d]? = some x') : ∃ x, w.diagrams[d]? = some x ∧ DiagramChange w d x a x' := by
  have hd : d < w.diagrams.length := by
    rw [← h.diagrams_length ha]
    exact (List.getElem?_eq_some_iff.mp hx).1
  obtain ⟨x'', hx'', hc⟩ := h.diagram (List.getElem?_eq_getElem hd)
  obtain rfl := Option.some.inj (hx.symm.trans hx'')
  exact ⟨_, List.getElem?_eq_getElem hd, hc⟩

/-- What a change does to a store. -/
inductive StoreChange (x : Watched Bool) : Author → Watched Bool → Prop
  | same {a : Author} : StoreChange x a x
  | write (activated : Bool) (live : x.live = true) : StoreChange x .writer (x.write activated)
  | close : StoreChange x .host x.close

theorem Change.store {s : StoreNo} {x : Watched Bool} (h : Change a w w')
    (hx : w.stores[s]? = some x) : ∃ x', w'.stores[s]? = some x' ∧ StoreChange x a x' := by
  have same {u : Workspace} (hu : u.stores = w.stores) :
      ∃ x', u.stores[s]? = some x' ∧ StoreChange x a x' :=
    ⟨x, by rw [hu, hx], .same⟩
  have modified {n : StoreNo} {f : Watched Bool → Watched Bool}
      (changed : n = s → StoreChange x a (f x)) :
      ∃ x', (w.stores.modify n f)[s]? = some x' ∧ StoreChange x a x' := by
    by_cases hn : n = s
    · exact ⟨f x, by simp [hn, hx], changed hn⟩
    · exact ⟨x, by simp [hn, hx], .same⟩
  cases h with
  | write activated hd hs live =>
    apply modified
    rintro rfl
    obtain rfl := Option.some.inj (hs.symm.trans hx)
    exact .write activated live
  | closeStore hd => exact modified fun _ => .close
  | openDiagram id choice hasNode =>
    obtain ⟨stores, store, ⟨longer, -⟩, he⟩ := openDiagram_eq w id choice hasNode
    obtain ⟨more, rfl⟩ := longer
    refine ⟨x, ?_, .same⟩
    rw [he]
    exact (List.getElem?_append_left (List.getElem?_eq_some_iff.mp hx).1).trans hx
  | highlight s l => exact same (by rw [highlight_eq])
  | retract h => exact same (by rw [retract_eq]; rfl)
  | release e =>
    obtain ⟨tasks, he, -⟩ := releaseSession_eq w e
    exact same (by rw [he])
  | endService =>
    obtain ⟨tasks, he, -⟩ := endService_eq w
    exact same (by rw [he])
  | _ => exact same rfl

/-- What a watched value can become. -/
structure Watched.Later (x x' : Watched Bool) : Prop where
  changes : x.changes ≤ x'.changes
  value : x'.changes = x.changes → x'.value = x.value
  closed : x.live = false → x' = x

theorem isNews_eq_false {α : Type} {x : Watched α} {seen : Nat} :
    x.isNews seen = false ↔ seen = x.changes := by
  rw [Watched.isNews, bne_eq_false_iff_eq]
  exact eq_comm

theorem StoreChange.later {x x' : Watched Bool} (h : StoreChange x a x') : x.Later x' := by
  cases h with
  | same => exact ⟨Nat.le_refl _, fun _ => rfl, fun _ => rfl⟩
  | write activated live =>
    unfold Watched.write
    split
    · exact ⟨Nat.le_refl _, fun _ => rfl, fun _ => rfl⟩
    · exact ⟨Nat.le_succ _, fun h => absurd h (Nat.succ_ne_self _), fun h => by simp [live] at h⟩
  | close => exact ⟨Nat.le_refl _, fun _ => rfl, fun h => by simp [Watched.close, ← h]⟩

theorem Change.activation {x : Watched Bool} (h : Change a w w') (hx : w.activation? d = some x) :
    ∃ x', w'.activation? d = some x' ∧ StoreChange x a x' := by
  obtain ⟨diagram, hd, hs⟩ := Option.bind_eq_some_iff.mp hx
  obtain ⟨diagram', hd', hc⟩ := h.diagram hd
  obtain ⟨x', hx', hxc⟩ := h.store hs
  -- No change gives a diagram another store.
  have same : diagram'.store = diagram.store := by cases hc <;> rfl
  refine ⟨x', ?_, hxc⟩
  rw [activation?, hd', Option.bind_some, same, hx']

theorem Change.later {x : Watched Bool} (h : Change a w w') (hx : w.activation? d = some x) :
    ∃ x', w'.activation? d = some x' ∧ x.Later x' := by
  obtain ⟨x', hx', hc⟩ := h.activation hx
  exact ⟨x', hx', hc.later⟩

end DiagramLinks
