import Mathlib.Data.List.Basic
import Mathlib.Logic.Relation
import DiagramLinks.Workspace.Move
import DiagramLinks.Workspace.Records

namespace DiagramLinks

/-- What an event is about. -/
inductive EventKind
  | decoration
  | indicator
  | mode
  /-- An event on its way to a session. -/
  | inbox
  /-- A session that takes an event or is through with it. -/
  | session
  | plain
deriving DecidableEq

def Event.kind : Event → EventKind
  | .called (.createDecoration _ _) => .decoration
  | .called (.paint _ _ _) => .decoration
  | .called (.setSelectionMode _ _) => .mode
  | .highlighted _ _ _ => .decoration
  | .indicated _ => .indicator
  | .sent _ _ => .inbox
  | .taken _ _ => .session
  | .handled _ _ => .session
  | _ => .plain

/-- Whether the selection mode of the diagram was bound to its activation. -/
def SessionPoint.isBound : SessionPoint → Bool
  | starting => false
  | idle bound => bound
  | handling bound _ => bound

def Activity.isWork : Activity → Bool
  | session _ _ _ => true
  | job _ _ _ => true
  | _ => false

/-- Who makes a change. -/
inductive Author
  /-- A job or a session that asks and gets answers. -/
  | activity
  /-- A job or a session whose answer is that a store takes an activation. -/
  | writer
  /-- A job or a session that shows a highlight. -/
  | reveal
  /-- A job or a session that goes on. -/
  | task
  | retraction
  /-- Hosts and users. -/
  | host
  | opening
  /-- The service with its registry and the focus. -/
  | service
  | status
  | mode
deriving DecidableEq

namespace Workspace

/-- A task that was neither aborted nor has ended, and where it stands. -/
abbrev runs (w : Workspace) (t : TaskNo) (a : Activity) : Prop :=
  w.tasks[t]? = some ⟨a, false, false⟩

def bindMode (w : Workspace) (t : TaskNo) (d : DiagramNo) (token : Token) (scope : Scope)
    (rest : List DiagramEvent) : Workspace :=
  let (issued, child) := scope.issue token
  let w := (w.modifyDiagram d fun diagram => { diagram with inbox := rest }).record (.taken d .ready)
  let w := w.modifyDiagram d fun diagram => { diagram with scope := issued }
  ((w.spawn (.selectionMode d child .starting)).record (.handled d (.ok ()))).moveTo t
    (.session d token (.idle true))

/-- The service lets go of its sessions and of the status indicator. -/
def endService (w : Workspace) : Workspace :=
  let (scope, tasks) := w.service.scope.release
  (w.updateService fun s => { s with scope, registry := [], active := s.active.close }).abortAll tasks

def showWatched (w : Workspace) (t : TaskNo) (token : Token) (seen : Nat) (d : DiagramNo)
    (activation : Watched Bool) (storeOpen : Bool) : Workspace :=
  (w.indicate (.ofActivation activation.value)).moveTo t
    (.status token (.watching seen d activation.changes storeOpen))

end Workspace

open Workspace

/-- One change of a workspace, with what it is based on. -/
inductive Change : Author → Workspace → Workspace → Prop
  | note {w : Workspace} {e} (plain : Event.kind e = .plain) : Change .activity w (w.record e)
  | write {w : Workspace} {d : DiagramNo} {diagram x} (activated : Bool)
      (hd : w.diagrams[d]? = some diagram) (hs : w.stores[diagram.store]? = some x)
      (live : x.live = true) :
      Change .writer w
        { w with stores := w.stores.modify diagram.store fun x => x.write activated }
  | highlight {w : Workspace} (s : Settings) (l : Location) : Change .reveal w (w.highlight s l)
  | job {w : Workspace} {t r tag p} (q : JobPoint) (h : w.runs t (.job r tag p)) :
      Change .task w (w.moveTo t (.job r tag q))
  | endJob {w : Workspace} {t r tag p} (h : w.runs t (.job r tag p)) : Change .task w (w.finish t)
  | session {w : Workspace} {t d token p q} (h : w.runs t (.session d token p))
      (same : SessionPoint.isBound q = p.isBound) : Change .task w (w.moveTo t (.session d token q))
  | take {w : Workspace} {t d token bound diagram e rest}
      (h : w.runs t (.session d token (.idle bound))) (hd : w.diagrams[d]? = some diagram)
      (going : diagram.scope.isCancelled token = false) (inbox : diagram.inbox = e :: rest)
      (known : e = .ready → bound = true) :
      Change .task w
        ((w.modifyDiagram d fun diagram => { diagram with inbox := rest }).record (.taken d e))
  | handled {w : Workspace} (d : DiagramNo) (result : Except Problem Unit) :
      Change .task w (w.record (.handled d result))
  | bind {w : Workspace} {t d token diagram rest} (h : w.runs t (.session d token (.idle false)))
      (hd : w.diagrams[d]? = some diagram) (going : diagram.scope.isCancelled token = false)
      (inbox : diagram.inbox = .ready :: rest) :
      Change .task w (w.bindMode t d token diagram.scope rest)
  | endSession {w : Workspace} {t d token p} (h : w.runs t (.session d token p))
      (ending : ∀ diagram, w.diagrams[d]? = some diagram → diagram.scope.isCancelled token = true
        ∨ diagram.inbox = [] ∧ diagram.sending = false) :
      Change .task w (w.endSession t d token)
  | dropJob {w : Workspace} {t : TaskNo} {r tag p}
      (h : w.tasks[t]? = some ⟨.job r tag p, true, false⟩) : Change .task w (w.finish t)
  | dropSession {w : Workspace} {t : TaskNo} {d token p}
      (h : w.tasks[t]? = some ⟨.session d token p, true, false⟩) :
      Change .task w ((w.modifyDiagram d fun diagram =>
        { diagram with receiving := false, inbox := [] }).finish t)
  | retract {w : Workspace} {t highlight due} (h : w.runs t (.retraction highlight due)) :
      Change .retraction w ((w.retract highlight).finish t)
  | dropRetraction {w : Workspace} {t : TaskNo} {highlight due}
      (h : w.tasks[t]? = some ⟨.retraction highlight due, true, false⟩) :
      Change .retraction w (w.finish t)
  | wait {w : Workspace} (milliseconds : Nat) :
      Change .host w { w with now := w.now + milliseconds }
  | request {w : Workspace} (r : Request) (tag : Option String) :
      Change .host w (w.spawn (.job r tag .starting))
  | focusEditor {w : Workspace} (editor : EditorId × Url) :
      Change .host w (w.updateService fun s => { s with focus := { s.focus with editor } })
  | setSettings {w : Workspace} (settings : Settings) :
      Change .host w (w.updateService fun s => { s with settings })
  | setRevealSettings {w : Workspace} (settings : Settings) :
      Change .host w (w.setRevealSettings settings)
  | send {w : Workspace} {d : DiagramNo} {diagram} (e : DiagramEvent)
      (hd : w.diagrams[d]? = some diagram) (sending : diagram.sending = true)
      (receiving : diagram.receiving = true) :
      Change .host w
        ((w.modifyDiagram d fun diagram => { diagram with inbox := diagram.inbox ++ [e] }).record
          (.sent d e))
  | endEvents {w : Workspace} (d : DiagramNo) : Change .host w (w.endEvents d)
  | setNode {w : Workspace} (d : DiagramNo) (hasNode : Bool) : Change .host w (w.setNode d hasNode)
  | closeStore {w : Workspace} {d : DiagramNo} {diagram} (hd : w.diagrams[d]? = some diagram) :
      Change .host w { w with stores := w.stores.modify diagram.store Watched.close }
  | addEditor {w : Workspace} (range : Range) : Change .host w (w.addEditor range).1
  | select {w : Workspace} (editor : EditorId) (range : Range) :
      Change .host w (w.select editor range)
  | setVisible {w : Workspace} (visible : List Url) : Change .host w (w.setVisible visible)
  | setRefusal {w : Workspace} (operation : Operation) (on : Bool) :
      Change .host w (w.setRefusal operation on)
  | setLatency {w : Workspace} (operation : Operation) (milliseconds : Nat) :
      Change .host w (w.setLatency operation milliseconds)
  | openDiagram {w : Workspace} (id : Url) (choice : StoreChoice) (hasNode : Bool) :
      Change .opening w (w.openDiagram id choice hasNode)
  | register {w : Workspace} {d} (id : Url) (valid : d < w.diagrams.length) :
      Change .service w
        (w.updateService fun s => { s with registry := Service.insert s.registry id d })
  | unregister {w : Workspace} (id : Url) :
      Change .service w
        (w.updateService fun s => { s with registry := s.registry.filter (·.1 != id) })
  | focus {w : Workspace} (focus : Focus) :
      Change .service w (w.updateService fun s => { s with focus })
  | activate {w : Workspace} {v} (valid : ∀ d, v = some d → d < w.diagrams.length) :
      Change .service w (w.updateService fun s => { s with active := s.active.replace v })
  | release {w : Workspace} (d : DiagramNo) : Change .service w (w.releaseSession d)
  | endService {w : Workspace} : Change .service w w.endService
  | letGo {w : Workspace} : Change .service w (w.updateService fun s => { s with held := false })
  | hide {w : Workspace} {t token p} (h : w.runs t (.status token p))
      (inactive : ∀ d, w.service.active.value = some d → w.activation? d = none) :
      Change .status w ((w.indicate .hidden).moveTo t
        (.status token (.hidden w.service.active.changes)))
  | watch {w : Workspace} {t token p d a} (h : w.runs t (.status token p))
      (active : w.service.active.value = some d) (ha : w.activation? d = some a) :
      Change .status w (w.showWatched t token w.service.active.changes d a true)
  | showWatched {w : Workspace} {t token seen d seenActivation a} (storeOpen : Bool)
      (h : w.runs t (.status token (.watching seen d seenActivation true)))
      (settled : w.service.active.isNews seen = false) (ha : w.activation? d = some a)
      (closing : storeOpen = true ∨ a.isNews seenActivation = false ∧ a.live = false) :
      Change .status w (w.showWatched t token seen d a storeOpen)
  | endStatus {w : Workspace} {t token p aborted}
      (h : w.tasks[t]? = some ⟨.status token p, aborted, false⟩)
      (ending : aborted = true ∨ w.service.scope.isCancelled token = true
        ∨ w.service.active.live = false) :
      Change .status w (w.finish t)
  | setMode {w : Workspace} {t d token p a} (h : w.runs t (.selectionMode d token p))
      (ha : w.activation? d = some a)
      (due : p = .starting ∨ ∃ seen, p = .resting seen ∧ a.isNews seen = true) :
      Change .mode w (w.setMode t d token a)
  | rest {w : Workspace} {t d token seen enabled due e}
      (h : w.runs t (.selectionMode d token (.setting seen enabled due)))
      (plain : Event.kind e = .plain) :
      Change .mode w ((w.record e).moveTo t (.selectionMode d token (.resting seen)))
  | endMode {w : Workspace} {t d token p aborted}
      (h : w.tasks[t]? = some ⟨.selectionMode d token p, aborted, false⟩)
      (ending : aborted = true ∨ w.diagrams[d]? = none ∨ w.activation? d = none
        ∨ ∃ diagram a seen, w.diagrams[d]? = some diagram ∧ w.activation? d = some a
          ∧ p = .resting seen ∧ (diagram.scope.isCancelled token = true
            ∨ a.isNews seen = false ∧ a.live = false)) :
      Change .mode w (w.finish t)

/-- Changes one after the other, all by some of the given authors. -/
abbrev Chain (authors : List Author) : Workspace → Workspace → Prop :=
  Relation.ReflTransGen fun w w' => ∃ a ∈ authors, Change a w w'

namespace Chain

variable {authors more : List Author} {w w' w'' : Workspace}

theorem refl : Chain authors w w := Relation.ReflTransGen.refl

theorem trans (h : Chain authors w w') (h' : Chain authors w' w'') : Chain authors w w'' :=
  Relation.ReflTransGen.trans h h'

theorem single {a : Author} (h : Change a w w') : Chain [a] w w' :=
  Relation.ReflTransGen.single ⟨a, List.mem_singleton_self a, h⟩

theorem mono (h : Chain authors w w') (sub : ∀ a ∈ authors, a ∈ more) : Chain more w w' :=
  Relation.ReflTransGen.mono (fun _ _ ⟨a, ha, hc⟩ => ⟨a, sub a ha, hc⟩) _ _ h

theorem step {a : Author} (h : Chain authors w w') (ha : a ∈ authors) (hc : Change a w' w'') :
    Chain authors w w'' :=
  Relation.ReflTransGen.tail h ⟨a, ha, hc⟩

/-- What every change keeps, a chain keeps. -/
theorem keeps {P : Workspace → Prop} (h : Chain authors w w') (hw : P w)
    (step : ∀ a ∈ authors, ∀ u u', P u → Change a u u' → P u') : P w' := by
  induction h with
  | refl => exact hw
  | tail _ hc ih =>
    obtain ⟨a, ha, hc⟩ := hc
    exact step a ha _ _ ih hc

end Chain

/-- Who takes part in an answer. -/
def answering : List Author := [.activity, .writer, .reveal]

namespace Workspace

variable (w : Workspace)

theorem ask_chain (a : Await) : Chain [.activity] w (w.ask a).1 :=
  .single (.note (by cases a <;> rfl))

theorem note_chain (n : Notice) : Chain [.activity] w (w.note n) :=
  .single (.note rfl)

theorem carriedOut_chain (c : Call) : Chain [.activity] w (w.record (.carriedOut c)) :=
  .single (.note (by cases c <;> rfl))

theorem flip_chain (d : Option DiagramNo) : Chain [.activity] w (w.flip d).1 := by
  unfold flip
  split
  · exact .refl
  · split
    · exact .refl
    · exact (note_chain _ _).trans (ask_chain _ _)

theorem handle_chain (d : DiagramNo) (node : NodeSelection) :
    Chain [.activity] w (w.handle d node).1 := by
  unfold handle
  split
  · split
    · split
      · exact ask_chain _ _
      · exact .refl
    · split
      · exact ask_chain _ _
      · exact .refl
  · exact .refl

theorem perform_chain (a : Action) : Chain [.activity] w (w.perform a).1 := by
  cases a with
  | toggleActivation => exact flip_chain _ _
  | linkSelectedNode =>
    simp only [perform, link]
    split
    · split
      · exact .refl
      · exact ask_chain _ _
    · exact .refl

theorem start_chain (r : Request) : Chain [.activity] w (w.start r).1 := by
  cases r with
  | activate d activated => exact ask_chain _ _
  | flip d => exact flip_chain _ _
  | toggle => exact perform_chain _ _
  | link => exact perform_chain _ _
  | execute action => exact perform_chain _ _
  | command id =>
    simp only [start]
    split
    · exact perform_chain _ _
    · exact .refl
  | handle d node => exact handle_chain _ _ _
  | linkLocation d l => exact ask_chain _ _
  | reveal l => exact ask_chain _ _

theorem modifyActivation_eq {w : Workspace} {d : DiagramNo} {diagram : Diagram}
    (hd : w.diagrams[d]? = some diagram) (f : Watched Bool → Watched Bool) :
    w.modifyActivation d f = { w with stores := w.stores.modify diagram.store f } := by
  simp only [modifyActivation, hd]

/-- An answer is nothing but a write, or it writes nothing. -/
theorem answer_cases (a : Await) :
    Change .writer w (w.answer a).1 ∨ Chain [.activity, .reveal] w (w.answer a).1 := by
  have only {u : Workspace} (h : Chain [.activity] w u) : Chain [.activity, .reveal] w u :=
    h.mono (by decide)
  unfold answer
  split
  · exact .inr .refl
  cases a with
  -- The only answer that writes, and it does nothing else.
  | storing d activated =>
    simp only [answerStore]
    split
    · exact .inr .refl
    · split
      · next x hx live =>
        obtain ⟨diagram, hd, hs⟩ := Option.bind_eq_some_iff.mp hx
        have hm := modifyActivation_eq hd fun x => x.write activated
        rw [hm]
        exact .inl (.write activated hd hs live)
      · exact .inr .refl
  | askingNode d =>
    simp only [answerNode]
    split
    · split
      · exact .inr (only (ask_chain _ _))
      · exact .inr .refl
    · exact .inr .refl
  | attaching d l =>
    simp only [answerLink]
    split
    · exact .inr .refl
    · split
      · exact .inr (only (((carriedOut_chain _ _).trans (note_chain _ _)).trans (ask_chain _ _)))
      · exact .inr .refl
  | searching name visible =>
    simp only [answerSymbols]
    split
    · exact .inr (only (carriedOut_chain _ _))
    · split
      · exact .inr (only ((carriedOut_chain _ _).trans (ask_chain _ _)))
      · exact .inr (only (carriedOut_chain _ _))
  | opening s l =>
    simp only
    split
    · exact .inr .refl
    · exact .inr (only ((carriedOut_chain _ _).trans (ask_chain _ _)))
  | showing s l =>
    exact .inr (Chain.step (only (carriedOut_chain _ _)) (by decide) (.highlight s l))

theorem answer_chain (a : Await) : Chain answering w (w.answer a).1 := by
  rcases answer_cases w a with written | asked
  · exact (Chain.single written).mono (by decide)
  · exact asked.mono (by decide)

theorem conclude_chain (r : Request) (result : Except Problem Unit) :
    Chain [.activity] w (w.conclude r result) := by
  unfold conclude
  split
  · exact (note_chain _ _).trans (Chain.single (.note rfl))
  · exact .refl

/-- The handle that the next highlight gets. -/
def nextHighlight (s : Settings) (l : Location) : Highlight :=
  ⟨w.conduct.editorOf w.lastId l.uri s.column, w.conduct.decorationOf (w.lastId + 1)⟩

/-- What a reveal records before it paints, the latest first. -/
def clearing (s : Settings) (l : Location) : List Event :=
  (w.revealer.active.map fun h => .called (.paint h.editor h.decoration [])).toList ++
    [.called (.createDecoration (w.nextHighlight s l).decoration s.color),
      .called (.revealRange (w.nextHighlight s l).editor l.revealRange)]

/-- What a reveal records when it highlights, the latest first. -/
def highlightEvents (s : Settings) (l : Location) : List Event :=
  let new := w.nextHighlight s l
  .highlighted new s l :: .called (.paint new.editor new.decoration [l.revealRange]) ::
    w.clearing s l

theorem highlight_eq (s : Settings) (l : Location) :
    w.highlight s l =
      { w with
        history := (w.highlightEvents s l).map (Entry.mk w.now) ++ w.history
        revealer := { w.revealer with active := some (w.nextHighlight s l) }
        lastId := w.lastId + 1
        tasks := w.tasks ++
          [⟨.retraction (w.nextHighlight s l) (w.now + s.duration.toNat), false, false⟩] } := by
  unfold highlight highlightEvents clearing
  cases w.revealer.active <;> rfl

theorem retract_eq (h : Highlight) :
    w.retract h =
      { w with
        history := ⟨w.now, .called (.paint h.editor h.decoration [])⟩ :: w.history
        revealer := { w.revealer with active := w.revealer.active.filter (· ≠ h) } } := by
  unfold retract
  dsimp only
  split
  · next same =>
    simp only [same, Option.filter_some]
    simp [clear, call, record]
  · next other =>
    have kept : w.revealer.active.filter (· ≠ h) = w.revealer.active := by
      cases active : w.revealer.active with
      | none => rfl
      | some h' => simp_all
    rw [kept]
    rfl

theorem openDiagram_eq (id : Url) (choice : StoreChoice) (hasNode : Bool) :
    ∃ (stores : List (Watched Bool)) (store : StoreNo),
      (w.stores <+: stores ∧
        (store < stores.length ∨ ∃ x ∈ w.diagrams, store = x.store)) ∧
      w.openDiagram id choice hasNode =
        { w with
          stores := stores
          diagrams := w.diagrams ++
            [⟨id, store, ⟨[], 1, [w.tasks.length]⟩, [], true, true, hasNode⟩]
          tasks := w.tasks ++ [⟨.session w.diagrams.length [0] .starting, false, false⟩] } := by
  have fresh (activated : Bool) : w.stores <+: w.stores ++ [Watched.new activated] ∧
      (w.stores.length < (w.stores ++ [Watched.new activated]).length ∨
        ∃ x ∈ w.diagrams, w.stores.length = x.store) :=
    ⟨List.prefix_append _ _, .inl (by simp)⟩
  unfold openDiagram chooseStore
  cases choice with
  | fresh activated => exact ⟨_, _, fresh activated, rfl⟩
  | shared d =>
    dsimp only
    split
    · next x hd =>
      exact ⟨_, _, ⟨List.prefix_rfl, .inr ⟨x, List.mem_of_getElem? hd, rfl⟩⟩, rfl⟩
    · exact ⟨_, _, fresh false, rfl⟩

variable {w} {w' : Workspace} {t : TaskNo} {a b : Activity}

theorem runs_moveTo (h : w.runs t a) : (w.moveTo t b).runs t b := by
  simp [runs, moveTo, h]

theorem isReady_of_runs (h : w.runs t a) : w.isReady t = w.canRun a := by
  simp [isReady, h]

theorem all_wait (inside : ∀ t < w.tasks.length, w.isReady t = false) (t : TaskNo) :
    w.isReady t = false := by
  by_cases spawned : t < w.tasks.length
  · exact inside t spawned
  · have none : w.tasks[t]? = none := List.getElem?_eq_none (Nat.le_of_not_lt spawned)
    simp [isReady, none]

theorem task_of_chain {task : Task} (h : Chain answering w w') (ht : w.tasks[t]? = some task) :
    w'.tasks[t]? = some task := by
  refine h.keeps (P := fun u => u.tasks[t]? = some task) ht ?_
  intro a ha u u' hu hc
  cases hc with
  | note plain => exact hu
  | write activated hd hs live => exact hu
  | highlight s l =>
    -- The retraction that a highlight spawns stands behind all other tasks.
    rw [highlight_eq, List.getElem?_append_left (List.getElem?_eq_some_iff.mp hu).1, hu]
  | _ => simp [answering] at ha

end Workspace

/-- Only the service changes its registry, the focus on diagrams and the active diagram. -/
theorem Change.service_eq {a : Author} {w w' : Workspace} (h : Change a w w') (ha : a ≠ .service) :
    ∃ settings editor,
      w'.service = { w.service with settings, focus := { w.service.focus with editor } } := by
  cases h with
  | highlight s l =>
    rw [highlight_eq]
    exact ⟨_, _, rfl⟩
  | retract h =>
    rw [retract_eq]
    exact ⟨_, _, rfl⟩
  | openDiagram id choice hasNode =>
    obtain ⟨stores, store, -, he⟩ := openDiagram_eq w id choice hasNode
    rw [he]
    exact ⟨_, _, rfl⟩
  | register => exact absurd rfl ha
  | unregister => exact absurd rfl ha
  | focus => exact absurd rfl ha
  | activate => exact absurd rfl ha
  | release => exact absurd rfl ha
  | endService => exact absurd rfl ha
  | letGo => exact absurd rfl ha
  | _ => exact ⟨_, _, rfl⟩

theorem Chain.held_eq {authors : List Author} {w w' : Workspace} (h : Chain authors w w')
    (no : Author.service ∉ authors) : w'.service.held = w.service.held := by
  refine h.keeps (P := fun u => u.service.held = w.service.held) rfl ?_
  intro a ha u u' hu hc
  obtain ⟨settings, editor, he⟩ := hc.service_eq fun e => no (e ▸ ha)
  rw [he, ← hu]

namespace Workspace

/-- The tasks that go with the session of a diagram. -/
def tracked (w : Workspace) (d : DiagramNo) : List TaskNo :=
  (w.diagrams[d]?.map fun diagram => diagram.scope.tracked).getD []

variable (w : Workspace)

theorem abortAll_eq (l : List TaskNo) :
    ∃ tasks : List Task, w.abortAll l = { w with tasks := tasks } ∧ ∀ t : TaskNo, tasks[t]? =
      w.tasks[t]?.map fun task => { task with aborted := task.aborted || l.contains t } := by
  induction l generalizing w with
  | nil => exact ⟨w.tasks, rfl, by simp⟩
  | cons i rest ih =>
    obtain ⟨tasks, he, ht⟩ := ih (w.abort i)
    refine ⟨tasks, he, fun t => ?_⟩
    rw [ht, abort]
    cases h : w.tasks[t]? with
    | none => simp [List.getElem?_modify, h]
    | some task =>
      by_cases hi : i = t
      · subst hi
        simp [h]
      · simp [h, hi, Ne.symm hi]

theorem releaseSession_eq (d : DiagramNo) :
    ∃ tasks : List Task,
      w.releaseSession d =
        { w with
          diagrams := w.diagrams.modify d fun diagram =>
            { diagram with scope := diagram.scope.release.1 }
          tasks := tasks } ∧
      ∀ t : TaskNo, tasks[t]? = w.tasks[t]?.map fun task =>
        { task with aborted := task.aborted || (w.tracked d).contains t } := by
  unfold releaseSession tracked
  split
  · next hd =>
    refine ⟨w.tasks, ?_, by simp [hd]⟩
    rw [List.modify_eq_self (List.getElem?_eq_none_iff.mp hd)]
  · next diagram hd =>
    obtain ⟨tasks, he, ht⟩ := abortAll_eq
      (w.modifyDiagram d fun x => { x with scope := diagram.scope.release.1 }) diagram.scope.tracked
    refine ⟨tasks, ?_, by simpa [hd, modifyDiagram] using ht⟩
    apply he.trans
    -- The scope was read before it is replaced.
    have hm : w.diagrams.modify d (fun x => { x with scope := diagram.scope.release.1 }) =
        w.diagrams.modify d fun x => { x with scope := x.scope.release.1 } := by
      apply List.ext_getElem?
      intro i
      by_cases hi : d = i
      · subst hi
        simp [hd]
      · simp [hi]
    simp only [modifyDiagram, hm]

theorem endService_eq :
    ∃ tasks : List Task,
      w.endService =
        { w with
          service :=
            { w.service with
              scope := w.service.scope.release.1
              registry := []
              active := w.service.active.close }
          tasks := tasks } ∧
      ∀ t : TaskNo, tasks[t]? = w.tasks[t]?.map fun task =>
        { task with aborted := task.aborted || w.service.scope.tracked.contains t } := by
  obtain ⟨tasks, he, ht⟩ := abortAll_eq (w.updateService fun s =>
    { s with scope := w.service.scope.release.1, registry := [], active := s.active.close })
    w.service.scope.tracked
  exact ⟨tasks, he, ht⟩

theorem closeSession_eq (d : DiagramNo) :
    ∃ notes : List Entry, (∀ e ∈ notes, e.event.kind = .plain) ∧
      w.closeSession d = { w with history := notes ++ w.history }.releaseSession d := by
  unfold closeSession
  split
  · next hd =>
    refine ⟨[], by simp, ?_⟩
    simp [releaseSession, hd]
  · next diagram hd =>
    dsimp only
    split
    · exact ⟨[], by simp, rfl⟩
    · exact ⟨[⟨w.now, .noted _⟩], by simp [Event.kind], rfl⟩

theorem closeSession_service (d : DiagramNo) : (w.closeSession d).service = w.service := by
  obtain ⟨notes, -, h⟩ := closeSession_eq w d
  obtain ⟨tasks, hr, -⟩ := releaseSession_eq { w with history := notes ++ w.history } d
  rw [h, hr]

theorem closeSession_length (d : DiagramNo) :
    (w.closeSession d).diagrams.length = w.diagrams.length := by
  obtain ⟨notes, -, h⟩ := closeSession_eq w d
  obtain ⟨tasks, hr, -⟩ := releaseSession_eq { w with history := notes ++ w.history } d
  rw [h, hr]
  simp

end Workspace

end DiagramLinks
