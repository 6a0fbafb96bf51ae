import DiagramLinks.Proofs.Registry
import DiagramLinks.Proofs.Retraction
import DiagramLinks.Proofs.Turns

namespace DiagramLinks

open Workspace

variable {w w' : Workspace} {t : TaskNo} {d : DiagramNo} {m : Move}

/-- The ways to close the session of a diagram. -/
inductive Closes (w : Workspace) (d : DiagramNo) : Move → Prop
  | closeDiagram {id} (held : w.service.held = true)
      (known : w.service.registry.lookup id = some d) : Closes w d (.closeDiagram id)
  | reopen {id choice hasNode} (held : w.service.held = true)
      (known : w.service.registry.lookup id = some d) :
      Closes w d (.openDiagram id choice hasNode true)
  | closeSession (opened : d < w.diagrams.length) (own : w.isRegistered d = false) :
      Closes w d (.closeSession d)
  | dropSession (opened : d < w.diagrams.length) (own : w.isRegistered d = false) :
      Closes w d (.dropSession d)
  /-- The service ends, when nobody holds or uses it any more. -/
  | endService {m : Move} (registered : w.isRegistered d = true) (before : w.service.active.live = true)
      (after : (w.move m).service.active.live = false) : Closes w d m

/-- A session stands where it was closed, and handles nothing after `w`, where it was last open. -/
structure HandlesNothing (w w' : Workspace) (d : DiagramNo) : Prop where
  closed : w'.isClosed d = true
  taken : takenIn d w'.history = takenIn d w.history
  results : resultsIn d w'.history = resultsIn d w.history
  /-- An event that it was in the middle of is abandoned there. -/
  abandoned : ∀ (t : TaskNo) token p aborted ended,
    w.tasks[t]? = some ⟨.session d token p, aborted, ended⟩ → ∃ ended',
      w'.tasks[t]? = some ⟨.session d token p, true, ended'⟩
  /-- All that its task can still do is to be dropped: nothing is called, painted or spawned. -/
  silent : ∀ (t : TaskNo) token p aborted ended,
    w'.tasks[t]? = some ⟨.session d token p, aborted, ended⟩ →
      (w'.step t).history = w'.history ∧ (w'.step t).revealer = w'.revealer ∧
        (w'.step t).tasks.length = w'.tasks.length
  /-- Retractions wait for their time, and then clear what they are there for. -/
  retractions : ∀ t h due, w.runs t (.retraction h due) → Retracts w w' t h due
  due : ∀ t h due, w'.runs t (.retraction h due) → due ≤ w'.now → w'.isReady t = true ∧
    (w'.step t).history = ⟨w'.now, .called (.paint h.editor h.decoration [])⟩ :: w'.history

theorem releaseAll_isClosed (registry : List (Url × DiagramNo)) (w : Workspace) (d : DiagramNo) :
    (registry.foldl (fun w entry => w.releaseSession entry.2) w).isClosed d =
      (w.isClosed d || registry.any (·.2 == d)) := by
  induction registry generalizing w with
  | nil => simp
  | cons entry rest ih =>
    have comm : (d == entry.2) = (entry.2 == d) := by rw [Bool.eq_iff_iff, beq_iff_eq, beq_iff_eq, eq_comm]
    rw [List.foldl_cons, ih, releaseSession_isClosed, List.any_cons, comm, Bool.or_assoc]

theorem retire_isClosed (w : Workspace) (d : DiagramNo) :
    w.retire.isClosed d = (w.isClosed d || w.isRegistered d) := by
  obtain ⟨tasks, he, -⟩ :=
    endService_eq (w.service.registry.foldl (fun w entry => w.releaseSession entry.2) w)
  have closed := releaseAll_isClosed w.service.registry w d
  show (endService _).isClosed d = _
  rw [he]
  exact closed

/-- The service goes on, and registers at most a diagram that is opened. -/
structure KeepsRegistry (w w' : Workspace) : Prop where
  live : w'.service.active.live = w.service.active.live
  registry : ∀ entry ∈ w'.service.registry, entry ∈ w.service.registry ∨ entry.2 = w.diagrams.length

/-- What a move does to the registry: the service goes on, or it ends with all its sessions. -/
inductive RegistryMove (w w' : Workspace) : Prop
  | keeps (kept : KeepsRegistry w w')
  | ends (ended : w'.service.active.live = false) (closed : ∀ d, w.isRegistered d = true → w'.isClosed d = true)
      (registry : w'.service.registry = [])

theorem KeepsRegistry.of_service (h : w'.service = w.service) : KeepsRegistry w w' :=
  ⟨by rw [h], fun entry he => .inl (h ▸ he)⟩

theorem RegistryMove.of_retire {u : Workspace} (live : u.service.active.live = w.service.active.live)
    (registry : u.service.registry = w.service.registry) : RegistryMove w u.retireIfUnused := by
  unfold retireIfUnused
  split
  · exact .keeps ⟨live, fun entry he => .inl (registry ▸ he)⟩
  · obtain ⟨diagrams, tasks, he⟩ := retire_eq u
    refine .ends (by rw [he]; rfl) (fun d registered => ?_) (by rw [he])
    have known : u.isRegistered d = true := by
      rw [isRegistered, registry]
      exact registered
    rw [retire_isClosed, known, Bool.or_true]

/-- Moves after which the service may end. -/
def Workspace.MayRetire (w : Workspace) (m : Move) : Prop :=
  m = .dropService ∨ ∃ t r tag q, m = .step t ∧ w.runs t (.job r tag q)

theorem Chain.service_kept {authors : List Author} (h : Chain authors w w')
    (no : Author.service ∉ authors) :
    w'.service.registry = w.service.registry ∧ w'.service.active = w.service.active := by
  refine h.keeps (P := fun u => u.service.registry = w.service.registry ∧
    u.service.active = w.service.active) ⟨rfl, rfl⟩ ?_
  rintro a ha u u' ⟨registry, active⟩ hc
  obtain ⟨settings, editor, he⟩ := hc.service_eq fun eq => no (eq ▸ ha)
  rw [he]
  exact ⟨registry, active⟩

theorem stepJob_registryMove {r : Request} {tag : Option String} (q : JobPoint) :
    RegistryMove w (w.stepJob t r tag q) := by
  have goes {u : Workspace} {new : List Event} (p : Progress) (records : Records w u new) :
      RegistryMove w (u.continueJob t r tag p) := by
    have service : (u.goOn t r tag p).service = w.service := records.service
    rw [continueJob_eq]
    split
    · exact .of_retire (by rw [service]) (by rw [service])
    · exact .keeps (.of_service service)
  cases q with
  | starting =>
    obtain ⟨new, -, records⟩ := start_starts w r
    exact goes _ records
  | waiting q =>
    obtain ⟨new, -, records⟩ := answer_answers w q.await
    exact goes _ records
  | ended result => exact .keeps (.of_service rfl)

/-- The service ends only when it is dropped or with an action. -/
theorem Sound.keepsRegistry (hw : Sound w) (going : ¬w.MayRetire m) : KeepsRegistry w (w.move m) := by
  -- Where the service takes no part its registry stays; else the cases are the moves that it takes part in.
  by_cases part : Author.service ∈ w.authors m
  swap
  · obtain ⟨registry, active⟩ := (hw.move_chain m).service_kept part
    exact ⟨by rw [active], fun entry he => .inl (registry ▸ he)⟩
  by_cases refused : (m.needsService && !w.service.held) = true
  · exact .of_service (by simp [Workspace.move, refused])
  have moved : w.move m = w.carryOut m := if_neg refused
  rw [moved]
  cases m with
  | step t =>
    show KeepsRegistry w (w.step t)
    rcases step_cases w t with same | ⟨b, hb, dropped⟩ | ⟨b, hb, ready⟩
    · exact .of_service (by rw [same])
    · exact .of_service (by rw [dropped]; cases b <;> rfl)
    · cases b with
      | job r tag q => exact absurd (.inr ⟨t, r, tag, q, rfl, hb⟩) going
      | _ => simp [authors, stepAuthors, hb, working, answering] at part
  | openDiagram id choice hasNode onService =>
    obtain ⟨stores, store, -, he⟩ := openDiagram_eq w id choice hasNode
    have service : (w.openDiagram id choice hasNode).service = w.service := by rw [he]
    simp only [carryOut]
    split
    · refine ⟨?_, ?_⟩
      · rw [register_service, service]
        dsimp only
        split <;> rfl
      · intro entry mem
        rw [register_service, service] at mem
        rcases mem_insert mem with rfl | old
        · exact .inr rfl
        · exact .inl old
    · exact .of_service service
  | closeDiagram id =>
    simp only [carryOut]
    cases hl : w.service.registry.lookup id with
    | none => exact .of_service (by rw [closeDiagram_unknown w hl])
    | some e =>
      refine ⟨?_, ?_⟩
      · rw [closeDiagram_service w hl]
        dsimp only
        split <;> rfl
      · intro entry mem
        rw [closeDiagram_service w hl] at mem
        exact .inl (List.mem_of_mem_filter mem)
  | closeSession e =>
    simp only [carryOut]
    split
    · exact .of_service rfl
    · exact .of_service (closeSession_service w e)
  | dropSession e =>
    obtain ⟨tasks, he, -⟩ := releaseSession_eq w e
    simp only [carryOut]
    split
    · exact .of_service rfl
    · exact .of_service (by rw [he])
  | focusDiagram id => exact ⟨rfl, fun entry mem => .inl mem⟩
  | dropService => exact absurd (.inl rfl) going
  | _ => simp [Workspace.authors] at part

theorem Sound.registryMove (hw : Sound w) (m : Move) : RegistryMove w (w.move m) := by
  by_cases may : w.MayRetire m
  · rcases may with rfl | ⟨t, r, tag, q, rfl, ht⟩
    · by_cases held : w.service.held = true
      · rw [move_of_held held]
        exact .of_retire rfl rfl
      · exact .keeps (.of_service (by simp [Workspace.move, Move.needsService, held]))
    · show RegistryMove w (w.step t)
      by_cases ready : w.isReady t = true
      · exact step_of_job ht ready ▸ stepJob_registryMove q
      · exact .keeps (.of_service (by rw [step_of_unready (Bool.eq_false_iff.mpr ready)]))
  · exact .keeps (hw.keepsRegistry may)

/-- With the service every session ends that it has registered. -/
theorem Sound.closed_of_end (hw : Sound w) (registered : w.isRegistered d = true)
    (before : w.service.active.live = true) (after : (w.move m).service.active.live = false) :
    (w.move m).isClosed d = true := by
  cases hw.registryMove m with
  | keeps kept =>
    rw [kept.live, before] at after
    cases after
  | ends ended closed => exact closed d registered

theorem Closes.isClosed (h : Closes w d m) (hw : Sound w) : (w.move m).isClosed d = true := by
  cases h with
  | closeDiagram held known =>
    rw [move_of_held held]
    simp [carryOut, closeDiagram_isClosed w known]
  | @reopen id choice hasNode held known =>
    obtain ⟨stores, store, -, he⟩ := openDiagram_eq w id choice hasNode
    have service : (w.openDiagram id choice hasNode).service = w.service := by rw [he]
    rw [move_of_held held]
    simp [carryOut, register_isClosed, service, known]
  | closeSession opened own =>
    show (w.carryOut (.closeSession d)).isClosed d = true
    simp [carryOut, own, closeSession_isClosed]
  | dropSession opened own =>
    show (w.carryOut (.dropSession d)).isClosed d = true
    simp [carryOut, own, releaseSession_isClosed]
  | endService registered before after => exact hw.closed_of_end registered before after

theorem Closes.opened (h : Closes w d m) (hw : Sound w) : d < w.diagrams.length := by
  have registered {entry : Url × DiagramNo} (h : entry ∈ w.service.registry) :
      entry.2 < w.diagrams.length :=
    hw.registry entry h
  cases h with
  | closeDiagram held known => exact registered (mem_of_lookup known)
  | reopen held known => exact registered (mem_of_lookup known)
  | closeSession opened own => exact opened
  | dropSession opened own => exact opened
  | endService known before after =>
    obtain ⟨entry, mem, same⟩ := List.any_eq_true.mp known
    obtain rfl := eq_of_beq same
    exact registered mem

theorem Closes.elsewhere (h : Closes w d m) (hw : Sound w) : Elsewhere w (w.move m) d := by
  rcases hw.session_cases d m with ⟨t, p, new, q, ended, step⟩ | ⟨elsewhere, -⟩
  · obtain ⟨rfl, runs, -⟩ := step
    cases h with
    | endService registered before after =>
      have idle : Author.service ∉ w.authors (.step t) := by
        simp [authors, stepAuthors, runs, working, answering]
      rw [((hw.move_chain _).service_kept idle).2, before] at after
      cases after
  · exact elsewhere

/-- The session of a closed diagram does not move any more. -/
theorem Served.closed_elsewhere (h : Served w) (closed : w.isClosed d = true) (m : Move) :
    Elsewhere w (w.move m) d := by
  rcases h.sound.session_cases d m with ⟨t, p, events, q, ended, step⟩ | ⟨elsewhere, -⟩
  · have running := h.owned.aborted_eq h.sound step.runs
    rw [closed] at running
    cases running
  · exact elsewhere

/-- The session of a diagram is where it was, aborted or not, and has taken no turn since. -/
def Stands (w w' : Workspace) (d : DiagramNo) : Prop :=
  (∃ new, w'.history = new ++ w.history ∧ ∀ e ∈ new, e.event.isTurnOf d = false) ∧
    ∀ (t : TaskNo) token p aborted ended, w.tasks[t]? = some ⟨.session d token p, aborted, ended⟩ →
      ∃ aborted' ended', w'.tasks[t]? = some ⟨.session d token p, aborted', ended'⟩

theorem Elsewhere.stands (h : Elsewhere w w' d) : Stands w w' d := by
  refine ⟨h.history, fun t token p aborted ended ht => ?_⟩
  obtain ⟨aborted', ended', ht', -⟩ := h.task t token p aborted ended ht
  exact ⟨aborted', ended', ht'⟩

theorem Stands.trans {w'' : Workspace} (h : Stands w w' d) (h' : Stands w' w'' d) :
    Stands w w'' d := by
  obtain ⟨⟨new, hn, quiet⟩, tasks⟩ := h
  obtain ⟨⟨more, hm, quiet'⟩, tasks'⟩ := h'
  refine ⟨⟨more ++ new, by rw [hm, hn, List.append_assoc], fun e he => ?_⟩, ?_⟩
  · rcases List.mem_append.mp he with he | he
    · exact quiet' e he
    · exact quiet e he
  · intro t token p aborted ended ht
    obtain ⟨aborted', ended', ht'⟩ := tasks t token p aborted ended ht
    exact tasks' t token p aborted' ended' ht'

theorem Served.closed_run {u : Workspace} (hu : Served u) {x : Diagram} (hx : u.diagrams[d]? = some x)
    (closed : u.isClosed d = true) (stands : Stands w u d) (more : List Move) :
    Stands w (u.run more) d := by
  have kept := hu.keeps_run (P := fun u => Stands w u d ∧ u.isClosed d = true ∧
    ∃ x, u.diagrams[d]? = some x) ⟨stands, closed, x, hx⟩ ?_ more
  · exact kept.1
  · rintro u m hu ⟨stands, closed, y, hy⟩
    have chain := hu.sound.move_chain m
    exact ⟨stands.trans (hu.closed_elsewhere closed m).stands, chain.isClosed hy closed,
      chain.diagram hy⟩

/-- An aborted session can only be dropped. -/
theorem step_aborted {token : Token} {p : SessionPoint} {ended : Bool}
    (ht : w.tasks[t]? = some ⟨.session d token p, true, ended⟩) :
    (w.step t).history = w.history ∧ (w.step t).revealer = w.revealer ∧
      (w.step t).tasks.length = w.tasks.length := by
  rcases step_cases w t with same | ⟨b, hb, dropped⟩ | ⟨b, hb, -⟩
  · rw [same]
    exact ⟨rfl, rfl, rfl⟩
  · obtain ⟨rfl, -, -⟩ := Task.mk.inj (Option.some.inj (ht.symm.trans hb))
    rw [dropped]
    exact ⟨rfl, rfl, List.length_modify ..⟩
  · obtain ⟨-, flag, -⟩ := Task.mk.inj (Option.some.inj (ht.symm.trans hb))
    cases flag

/-- However a session is closed, and whatever it was doing then, it handles nothing after that. -/
theorem closed_handlesNothing (settings : Settings) (visible : List Url) (symbols : List Symbol)
    (conduct : Conduct) (moves : List Move) (d : DiagramNo) (m : Move)
    (closes : Closes ((Workspace.new settings visible symbols conduct).run moves) d m)
    (more : List Move) :
    HandlesNothing ((Workspace.new settings visible symbols conduct).run moves)
      ((Workspace.new settings visible symbols conduct).run (moves ++ m :: more)) d := by
  have served := (Served.new settings visible symbols conduct).run moves
  have split : (Workspace.new settings visible symbols conduct).run (moves ++ m :: more) =
      (((Workspace.new settings visible symbols conduct).run moves).move m).run more := by
    simp [Workspace.run]
  rw [split]
  generalize (Workspace.new settings visible symbols conduct).run moves = w at served closes ⊢
  have sound := served.sound
  have next := served.move m
  obtain ⟨x, hx⟩ := (sound.move_chain m).diagram (List.getElem?_eq_getElem (closes.opened sound))
  have closed := closes.isClosed sound
  obtain ⟨⟨new, hn, quiet⟩, stands⟩ := next.closed_run hx closed (closes.elsewhere sound).stands more
  have reached := next.run more
  have closed' := next.sound.run_isClosed more hx closed
  have aborted {t : TaskNo} {token : Token} {p : SessionPoint} {aborted ended : Bool}
      (ht : ((w.move m).run more).tasks[t]? = some ⟨.session d token p, aborted, ended⟩) :
      aborted = true :=
    (reached.owned.aborted_eq reached.sound ht).trans closed'
  refine ⟨closed', ?_, ?_, ?_, ?_, ?_, ?_⟩
  · rw [hn, takenIn_append quiet]
  · rw [hn, resultsIn_append quiet]
  · intro t token p flag ended ht
    obtain ⟨flag', ended', ht'⟩ := stands t token p flag ended ht
    obtain rfl := aborted ht'
    exact ⟨ended', ht'⟩
  · intro t token p flag ended ht
    obtain rfl := aborted ht
    exact step_aborted ht
  · intro t h due ht
    obtain ⟨new, hn, -⟩ := (sound.move_chain m).history_eq
    have first : Retracts w (w.move m) t h due := Retracts.move (.inl ht) sound List.suffix_rfl m
    exact next.sound.retracts_run first (hn ▸ List.suffix_append new w.history) more
  · intro t h due ht now
    obtain ⟨ready, history, -⟩ := step_retraction ht now
    exact ⟨ready, history⟩

/-- A highlight is painted, then a session looks up the symbol of its first event. -/
def suspended (l : Location) (id : Url) : List Move :=
  [.request (.reveal l) none, .step 1, .step 1, .step 1, .openDiagram id (.fresh true) false true,
    .step 3, .setLatency .findSymbols 50, .send 0 (.selected ⟨"#f", none⟩), .step 3]

/-- A session that is closed while it waits for the symbol index never hears of the answer; the highlight
is taken back in time. -/
theorem suspended_handlesNothing :
    let id : Url := ⟨"file:///closed.rs", by decide +kernel⟩
    let moves := suspended ⟨id, ⟨⟨0, 0⟩, ⟨0, 4⟩⟩⟩ id
    let more : List Move := [.wait 1000, .step 3, .step 2]
    let start := Workspace.new .default [] [] (.prompt false false)
    (start.run moves).runs 3 (.session 0 [0] (.handling false ⟨.searching "f" [], 50⟩)) ∧
      (start.run moves).runs 2 (.retraction ⟨1, 1⟩ 1000) ∧
      Closes (start.run moves) 0 (.closeDiagram id) ∧
      HandlesNothing (start.run moves) (start.run (moves ++ .closeDiagram id :: more)) 0 :=
  ⟨rfl, rfl, .closeDiagram (by decide +kernel) (by decide +kernel),
    closed_handlesNothing _ _ _ _ _ _ _ (.closeDiagram (by decide +kernel) (by decide +kernel)) _⟩

end DiagramLinks
