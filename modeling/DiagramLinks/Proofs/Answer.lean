import DiagramLinks.Proofs.Change

namespace DiagramLinks

namespace Workspace

/-- The call to a host that an activity makes now and rests in. -/
def pending (w : Workspace) (a : Await) : Pending :=
  ⟨a, w.now + w.conduct.latency a.operation⟩

end Workspace

open Workspace

variable {w u v : Workspace}

/-- An activity records events, the latest first, and spawns no more than a retraction. -/
structure Records (w u : Workspace) (new : List Event) : Prop where
  history : u.history = new.map (Entry.mk w.now) ++ w.history
  diagrams : u.diagrams = w.diagrams
  service : u.service = w.service
  now : u.now = w.now
  tasks : ∃ born : List Task, u.tasks = w.tasks ++ born ∧
    ∀ x ∈ born, ∃ h due, x = ⟨.retraction h due, false, false⟩

namespace Records

theorem nil (w : Workspace) : Records w w [] := ⟨rfl, rfl, rfl, rfl, [], by simp⟩

theorem record (w : Workspace) (e : Event) : Records w (w.record e) [e] :=
  ⟨rfl, rfl, rfl, rfl, [], by simp [Workspace.record]⟩

theorem ask (w : Workspace) (a : Await) : Records w (w.ask a).1 [.called a.call] :=
  record w _

theorem trans {new more : List Event} (h : Records w u new) (h' : Records u v more) :
    Records w v (more ++ new) := by
  obtain ⟨born, hb, hr⟩ := h.tasks
  obtain ⟨born', hb', hr'⟩ := h'.tasks
  refine ⟨?_, h'.diagrams.trans h.diagrams, h'.service.trans h.service, h'.now.trans h.now,
    born ++ born', ?_, ?_⟩
  · rw [h'.history, h.history, h.now, List.map_append, List.append_assoc]
  · rw [hb', hb, List.append_assoc]
  · intro x hx
    rcases List.mem_append.mp hx with hx | hx
    · exact hr x hx
    · exact hr' x hx

theorem highlight (w : Workspace) (s : Settings) (l : Location) :
    Records w (w.highlight s l) (w.highlightEvents s l) := by
  rw [highlight_eq]
  exact ⟨rfl, rfl, rfl, rfl, _, rfl, by simp⟩

theorem write {d : DiagramNo} (f : Watched Bool → Watched Bool) :
    Records w (w.modifyActivation d f) [] := by
  unfold modifyActivation
  split <;> exact ⟨rfl, rfl, rfl, rfl, [], by simp⟩

theorem task {new : List Event} {t : TaskNo} {x : Task} (h : Records w u new)
    (ht : w.tasks[t]? = some x) : u.tasks[t]? = some x := by
  obtain ⟨born, hb, -⟩ := h.tasks
  rw [hb, List.getElem?_append_left (List.getElem?_eq_some_iff.mp ht).1, ht]

end Records

/-- What follows the answer to a call: events, the latest first, and how the activity goes on. -/
inductive Answers (w : Workspace) : Await → List Event → Progress → Prop
  /-- The host refuses or fails, or a precondition is not met any more. -/
  | fails (a : Await) (p : Problem) : Answers w a [] (.over (.error p))
  | misses (name : String) (visible : List Url) (p : Problem) :
      Answers w (.searching name visible) [.carriedOut (.findSymbols name)] (.over (.error p))
  | stores (d : DiagramNo) (activated : Bool) : Answers w (.storing d activated) [] (.over (.ok ()))
  | asks {d l} (selected : w.selectedLocation = .ok l) :
      Answers w (.askingNode d) [.called (Await.attaching d l).call]
        (.waiting (w.pending (.attaching d l)))
  | attaches {d l diagram} (hd : w.diagrams[d]? = some diagram) :
      Answers w (.attaching d l)
        [.called (Await.opening w.revealer.settings l).call, .noted (.linked l diagram.id),
          .carriedOut (Await.attaching d l).call]
        (.waiting (w.pending (.opening w.revealer.settings l)))
  | finds {name visible l}
      (best : Symbol.best name visible (Symbol.matching name w.symbols) = .found name l) :
      Answers w (.searching name visible)
        [.called (Await.opening w.revealer.settings l).call, .carriedOut (.findSymbols name)]
        (.waiting (w.pending (.opening w.revealer.settings l)))
  | opens (s : Settings) (l : Location) :
      Answers w (.opening s l)
        [.called (Await.showing s l).call, .carriedOut (Await.opening s l).call]
        (.waiting (w.pending (.showing s l)))
  | shows (s : Settings) (l : Location) :
      Answers w (.showing s l) (w.highlightEvents s l ++ [.carriedOut (Await.showing s l).call])
        (.over (.ok ()))

theorem best_eq_found {name name' : String} {visible : List Url} {symbols : List Symbol}
    {l : Location} (h : Symbol.best name visible symbols = .found name' l) : name' = name := by
  unfold Symbol.best at h
  split at h
  · cases h
  · exact (Symbol.Resolution.found.inj h).1.symm

theorem answer_answers (w : Workspace) (a : Await) :
    ∃ new, Answers w a new (w.answer a).2 ∧ Records w (w.answer a).1 new := by
  have failed (p : Problem) : ∃ new, Answers w a new (.over (.error p)) ∧ Records w w new :=
    ⟨[], .fails a p, .nil w⟩
  unfold answer
  split
  · exact failed _
  cases a with
  | storing d activated =>
    simp only [answerStore]
    split
    · exact failed _
    · split
      · exact ⟨[], .stores d activated, .write _⟩
      · exact failed _
  | askingNode d =>
    simp only [answerNode]
    split
    · split
      · next l selected => exact ⟨_, .asks selected, .ask w _⟩
      · exact failed _
    · exact failed _
  | attaching d l =>
    simp only [answerLink]
    split
    · exact failed _
    · next diagram hd =>
      split
      · exact ⟨_, .attaches hd, ((Records.record w _).trans (.record _ _)).trans (.ask _ _)⟩
      · exact failed _
  | searching name visible =>
    have asked := Records.record w (.carriedOut (.findSymbols name))
    simp only [answerSymbols]
    split
    · exact ⟨_, .misses name visible _, asked⟩
    · split
      · next name' l best =>
        obtain rfl := best_eq_found best
        exact ⟨_, .finds best, asked.trans (.ask _ _)⟩
      · exact ⟨_, .misses name visible _, asked⟩
  | opening s l =>
    simp only
    split
    · exact failed _
    · exact ⟨_, .opens s l, (Records.record w _).trans (.ask _ _)⟩
  | showing s l => exact ⟨_, .shows s l, (Records.record w _).trans (.highlight _ s l)⟩

theorem NodeSelection.link_ofData {label : String} {link : Json} (present : link.isPresent = true) :
    (NodeSelection.ofData label (some link)).link = some link := by
  simp [NodeSelection.ofData, present]

/-- What the selection of a node leads to. -/
inductive Handles (w : Workspace) (d : DiagramNo) (node : NodeSelection) :
    List Event → Progress → Prop
  | ignores (reason : w.isActivated d = false ∨ node.link = none ∧ Symbol.tag? node.label = none) :
      Handles w d node [] (.over (.ok ()))
  | malformed {data m} (link : node.link = some data) (bad : Location.ofJson data = .error m) :
      Handles w d node [] (.over (.error (.malformed m)))
  | follows {data l} (link : node.link = some data) (good : Location.ofJson data = .ok l) :
      Handles w d node [.called (Await.opening w.revealer.settings l).call]
        (.waiting (w.pending (.opening w.revealer.settings l)))
  | searches {name} (link : node.link = none) (tag : Symbol.tag? node.label = some name) :
      Handles w d node [.called (Await.searching name w.visible).call]
        (.waiting (w.pending (.searching name w.visible)))

theorem handle_handles (w : Workspace) (d : DiagramNo) (node : NodeSelection) :
    ∃ new, Handles w d node new (w.handle d node).2 ∧ Records w (w.handle d node).1 new := by
  unfold handle
  split
  · split
    · next data link =>
      split
      · next l good => exact ⟨_, .follows link good, .ask w _⟩
      · next m bad => exact ⟨_, .malformed link bad, .nil w⟩
    · next link =>
      split
      · next name tag => exact ⟨_, .searches link tag, .ask w _⟩
      · next tag => exact ⟨_, .ignores (.inr ⟨link, tag⟩), .nil w⟩
  · next off => exact ⟨_, .ignores (.inl (Bool.eq_false_iff.mpr off)), .nil w⟩

/-- What the start of a request leads to. -/
inductive Starts (w : Workspace) : Request → List Event → Progress → Prop
  /-- There is nothing to do, or a precondition is not met. -/
  | ends (r : Request) (result : Except Problem Unit) : Starts w r [] (.over result)
  | stores (d : DiagramNo) (activated : Bool) :
      Starts w (.activate d activated) [.called (Await.storing d activated).call]
        (.waiting (w.pending (.storing d activated)))
  | flips {r d diagram} (hd : w.diagrams[d]? = some diagram) :
      Starts w r
        [.called (Await.storing d !w.isActivated d).call, .noted (.turned diagram.id !w.isActivated d)]
        (.waiting (w.pending (.storing d !w.isActivated d)))
  | asks {r d} (last : w.lastActiveDiagram? = some d) :
      Starts w r [.called (Await.askingNode d).call] (.waiting (w.pending (.askingNode d)))
  | handles {d node new p} (h : Handles w d node new p) : Starts w (.handle d node) new p
  | attaches (d : DiagramNo) (l : Location) :
      Starts w (.linkLocation d l) [.called (Await.attaching d l).call]
        (.waiting (w.pending (.attaching d l)))
  | reveals (l : Location) :
      Starts w (.reveal l) [.called (Await.opening w.revealer.settings l).call]
        (.waiting (w.pending (.opening w.revealer.settings l)))

theorem flip_starts (w : Workspace) (r : Request) (d : Option DiagramNo) :
    ∃ new, Starts w r new (w.flip d).2 ∧ Records w (w.flip d).1 new := by
  unfold Workspace.flip
  split
  · exact ⟨_, .ends r _, .nil w⟩
  · split
    · exact ⟨_, .ends r _, .nil w⟩
    · next diagram hd => exact ⟨_, .flips hd, (Records.record w _).trans (.ask _ _)⟩

theorem perform_starts (w : Workspace) (r : Request) (a : Action) :
    ∃ new, Starts w r new (w.perform a).2 ∧ Records w (w.perform a).1 new := by
  cases a with
  | toggleActivation => exact flip_starts w r _
  | linkSelectedNode =>
    simp only [perform, link]
    split
    · split
      · exact ⟨_, .ends r _, .nil w⟩
      · next d last => exact ⟨_, .asks last, .ask w _⟩
    · exact ⟨_, .ends r _, .nil w⟩

theorem start_starts (w : Workspace) (r : Request) :
    ∃ new, Starts w r new (w.start r).2 ∧ Records w (w.start r).1 new := by
  cases r with
  | activate d activated => exact ⟨_, .stores d activated, .ask w _⟩
  | flip d => exact flip_starts w _ d
  | toggle => exact perform_starts w _ _
  | link => exact perform_starts w _ _
  | execute action => exact perform_starts w _ action
  | command id =>
    simp only [start]
    split
    · exact perform_starts w _ _
    · exact ⟨_, .ends _ _, .nil w⟩
  | handle d node =>
    obtain ⟨new, handles, records⟩ := handle_handles w d node
    exact ⟨new, .handles handles, records⟩
  | linkLocation d l => exact ⟨_, .attaches d l, .ask w _⟩
  | reveal l => exact ⟨_, .reveals l, .ask w _⟩

end DiagramLinks
