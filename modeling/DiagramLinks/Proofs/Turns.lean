import DiagramLinks.Proofs.Sessions

namespace DiagramLinks

open Workspace

variable {w w' : Workspace} {t : TaskNo} {d : DiagramNo} {m : Move} {token : Token}
  {symbols : List Symbol}
  {past extra : List Entry} {before : List DiagramEvent} {e : DiagramEvent} {node : NodeSelection}

def Event.result? (d : DiagramNo) : Event → Option (Except Problem Unit)
  | .handled e result => if e = d then some result else none
  | _ => none

/-- The results of the events that the session of a diagram is through with. -/
def resultsIn (d : DiagramNo) : List Entry → List (Except Problem Unit) := seenIn (Event.result? d)

/-- The events that the session of a diagram is through with, one for each result. -/
def handledIn (d : DiagramNo) (history : List Entry) : List DiagramEvent :=
  (takenIn d history).take (resultsIn d history).length

theorem taken?_of_turn {e : Event} (h : e.isTurnOf d = false) : e.taken? d = none := by
  cases e with
  | taken e event => simpa [Event.taken?, Event.isTurnOf] using h
  | _ => rfl

theorem result?_of_turn {e : Event} (h : e.isTurnOf d = false) : e.result? d = none := by
  cases e with
  | handled e result => simpa [Event.result?, Event.isTurnOf] using h
  | _ => rfl

theorem takenIn_append (quiet : ∀ e ∈ extra, e.event.isTurnOf d = false) :
    takenIn d (extra ++ past) = takenIn d past :=
  seenIn_append_of_blind fun e he => taken?_of_turn (quiet e he)

theorem resultsIn_append (quiet : ∀ e ∈ extra, e.event.isTurnOf d = false) :
    resultsIn d (extra ++ past) = resultsIn d past :=
  seenIn_append_of_blind fun e he => result?_of_turn (quiet e he)

theorem resultsIn_taken (e : DiagramNo) (time : Nat) (event : DiagramEvent) :
    resultsIn d (⟨time, .taken e event⟩ :: past) = resultsIn d past :=
  seenIn_cons_of_blind rfl

theorem takenIn_handled (e : DiagramNo) (time : Nat) (result : Except Problem Unit) :
    takenIn d (⟨time, .handled e result⟩ :: past) = takenIn d past :=
  seenIn_cons_of_blind rfl

theorem resultsIn_handled (time : Nat) (result : Except Problem Unit) :
    resultsIn d (⟨time, .handled d result⟩ :: past) = resultsIn d past ++ [result] := by
  rw [resultsIn, seenIn_cons]
  simp [Event.result?]

/-- Nothing that was handled is taken back. -/
theorem handledIn_grows {history : List Entry} (h : past <:+ history) :
    handledIn d past <+: handledIn d history := by
  obtain ⟨extra, rfl⟩ := h
  have taken : takenIn d past <+: takenIn d (extra ++ past) := by
    rw [takenIn, seenIn_append]
    exact List.prefix_append _ _
  have results : (resultsIn d past).length ≤ (resultsIn d (extra ++ past)).length := by
    rw [resultsIn, seenIn_append, List.length_append]
    exact Nat.le_add_right _ _
  obtain ⟨more, eq⟩ := taken
  unfold handledIn
  rw [← eq, List.take_append]
  exact (List.take_prefix_take_left results).trans (List.prefix_append _ _)

/-- A node leads to a location: by its link, or without one by the best symbol that its tag names. -/
def NodeSelection.LeadsTo (symbols : List Symbol) (node : NodeSelection) (l : Location) : Prop :=
  match node.link with
  | some data => Location.ofJson data = .ok l
  | none => ∃ name visible, Symbol.tag? node.label = some name ∧
    Symbol.best name visible (Symbol.matching name symbols) = .found name l

/-- What the handling of an event ends with: what was recorded last before its result. -/
inductive Concludes (symbols : List Symbol) (d : DiagramNo) :
    DiagramEvent → Except Problem Unit → List Entry → Prop
  /-- The message of the failure was shown. -/
  | failed {e p time past} :
      Concludes symbols d e (.error p) (⟨time, .called (.showError p.message)⟩ :: past)
  /-- The highlight of a location was painted to which the node leads. -/
  | revealed {node l h s time time' past} (leads : node.LeadsTo symbols l) :
      Concludes symbols d (.selected node) (.ok ()) (⟨time, .highlighted h s l⟩ ::
        ⟨time', .called (.paint h.editor h.decoration [l.revealRange])⟩ :: past)
  /-- The event was taken, and there was nothing to do. -/
  | atOnce {e time past} : Concludes symbols d e (.ok ()) (⟨time, .taken d e⟩ :: past)

/-- Turns alternate: an event is taken when all before it are handled, and handled when it is complete. -/
structure Orderly (symbols : List Symbol) (d : DiagramNo) (history : List Entry) : Prop where
  oneAtATime : ∀ past time e, ⟨time, .taken d e⟩ :: past <:+ history →
    handledIn d past = takenIn d past
  complete : ∀ past time result, ⟨time, .handled d result⟩ :: past <:+ history →
    ∃ e, takenIn d past = handledIn d past ++ [e] ∧ Concludes symbols d e result past

/-- The event that was taken last is not handled yet. -/
structure Pends (d : DiagramNo) (history : List Entry) (before : List DiagramEvent)
    (e : DiagramEvent) : Prop where
  taken : takenIn d history = before ++ [e]
  results : (resultsIn d history).length = before.length

theorem Pends.handled (h : Pends d past before e) : handledIn d past = before := by
  rw [handledIn, h.taken, h.results, List.take_left]

theorem Pends.take (even : (resultsIn d past).length = (takenIn d past).length) (time : Nat)
    (e : DiagramEvent) : Pends d (⟨time, .taken d e⟩ :: past) (takenIn d past) e where
  taken := by rw [takenIn_taken, if_pos rfl]
  results := by rw [resultsIn_taken, even]

theorem Pends.even (h : Pends d past before e) (time : Nat) (result : Except Problem Unit) :
    (resultsIn d (⟨time, .handled d result⟩ :: past)).length =
      (takenIn d (⟨time, .handled d result⟩ :: past)).length := by
  rw [resultsIn_handled, takenIn_handled, h.taken, List.length_append, List.length_append, h.results,
    List.length_singleton, List.length_singleton]

theorem Pends.append (h : Pends d past before e) (quiet : ∀ e ∈ extra, e.event.isTurnOf d = false) :
    Pends d (extra ++ past) before e :=
  ⟨(takenIn_append quiet).trans h.taken, by rw [resultsIn_append quiet, h.results]⟩

namespace Orderly

theorem cons {entry : Entry} (h : Orderly symbols d past) (quiet : entry.event.isTurnOf d = false) :
    Orderly symbols d (entry :: past) := by
  constructor
  · intro p time e hs
    rcases List.suffix_cons_iff.mp hs with eq | hs
    · obtain ⟨rfl, rfl⟩ := List.cons.inj eq
      simp [Event.isTurnOf] at quiet
    · exact h.oneAtATime p time e hs
  · intro p time result hs
    rcases List.suffix_cons_iff.mp hs with eq | hs
    · obtain ⟨rfl, rfl⟩ := List.cons.inj eq
      simp [Event.isTurnOf] at quiet
    · exact h.complete p time result hs

theorem append (h : Orderly symbols d past) (quiet : ∀ e ∈ extra, e.event.isTurnOf d = false) :
    Orderly symbols d (extra ++ past) := by
  induction extra with
  | nil => exact h
  | cons entry extra ih =>
    have rest := ih fun e he => quiet e (List.mem_cons_of_mem _ he)
    exact rest.cons (quiet entry List.mem_cons_self)

theorem take (h : Orderly symbols d past) (time : Nat) (e : DiagramEvent)
    (even : handledIn d past = takenIn d past) :
    Orderly symbols d (⟨time, .taken d e⟩ :: past) := by
  constructor
  · intro p time' e' hs
    rcases List.suffix_cons_iff.mp hs with eq | hs
    · obtain ⟨-, rfl⟩ := List.cons.inj eq
      exact even
    · exact h.oneAtATime p time' e' hs
  · intro p time' result hs
    rcases List.suffix_cons_iff.mp hs with eq | hs
    · obtain ⟨head, -⟩ := List.cons.inj eq
      cases head
    · exact h.complete p time' result hs

theorem finish (h : Orderly symbols d past) (time : Nat) {result : Except Problem Unit}
    (pends : Pends d past before e) (concludes : Concludes symbols d e result past) :
    Orderly symbols d (⟨time, .handled d result⟩ :: past) := by
  constructor
  · intro p time' e' hs
    rcases List.suffix_cons_iff.mp hs with eq | hs
    · obtain ⟨head, -⟩ := List.cons.inj eq
      cases head
    · exact h.oneAtATime p time' e' hs
  · intro p time' result' hs
    rcases List.suffix_cons_iff.mp hs with eq | hs
    · obtain ⟨head, rfl⟩ := List.cons.inj eq
      obtain ⟨-, rfl⟩ := Event.handled.inj (Entry.mk.inj head).2
      exact ⟨e, by rw [pends.handled, pends.taken], concludes⟩
    · exact h.complete p time' result' hs

end Orderly

/-- A call that a session rests in while it handles the selection of a node. -/
inductive Await.Fits (symbols : List Symbol) (node : NodeSelection) : Await → Prop
  | searching {name visible} (link : node.link = none) (tag : Symbol.tag? node.label = some name) :
      Fits symbols node (.searching name visible)
  | opening {s l} (leads : node.LeadsTo symbols l) : Fits symbols node (.opening s l)
  | showing {s l} (leads : node.LeadsTo symbols l) : Fits symbols node (.showing s l)

/-- Where a session stands, against what it has taken and finished. -/
inductive Stage (symbols : List Symbol) (d : DiagramNo) (history : List Entry) : SessionPoint → Prop
  | starting (even : (resultsIn d history).length = (takenIn d history).length) :
      Stage symbols d history .starting
  | idle (bound : Bool) (even : (resultsIn d history).length = (takenIn d history).length) :
      Stage symbols d history (.idle bound)
  | handling (bound : Bool) {q before node} (pends : Pends d history before (.selected node))
      (fits : q.await.Fits symbols node) : Stage symbols d history (.handling bound q)

theorem handledIn_of_even (even : (resultsIn d past).length = (takenIn d past).length) :
    handledIn d past = takenIn d past := by
  rw [handledIn, even, List.take_length]

theorem Stage.append {p : SessionPoint} (h : Stage symbols d past p)
    (quiet : ∀ e ∈ extra, e.event.isTurnOf d = false) : Stage symbols d (extra ++ past) p := by
  have still (even : (resultsIn d past).length = (takenIn d past).length) :
      (resultsIn d (extra ++ past)).length = (takenIn d (extra ++ past)).length := by
    rw [takenIn_append quiet, resultsIn_append quiet, even]
  cases h with
  | starting even => exact .starting (still even)
  | idle bound even => exact .idle bound (still even)
  | handling bound pends fits => exact .handling bound (pends.append quiet) fits

theorem Handles.fits {d' : DiagramNo} {events : List Event} {q : Pending}
    (h : Handles w d' node events (.waiting q)) : q.await.Fits symbols node := by
  cases h with
  | follows link good => exact .opening (by rw [NodeSelection.LeadsTo, link]; exact good)
  | searches link tag => exact .searching link tag

/-- What an answer leads to fits the node again, and it is nearer to the end. -/
theorem Answers.fits {a : Await} {events : List Event} {q : Pending}
    (h : Answers w a events (.waiting q)) (fits : a.Fits w.symbols node) :
    q.await.Fits w.symbols node := by
  cases h with
  | finds best =>
    cases fits with
    | searching link tag =>
      refine .opening ?_
      rw [NodeSelection.LeadsTo, link]
      exact ⟨_, _, tag, best⟩
  | opens s l =>
    cases fits with
    | opening leads => exact .showing leads
  | asks selected => cases fits
  | attaches hd => cases fits

theorem Answers.concludes {a : Await} {events : List Event} (h : Answers w a events (.over (.ok ())))
    (fits : a.Fits w.symbols node) (time : Nat) (past : List Entry) :
    Concludes w.symbols d (.selected node) (.ok ()) (events.map (Entry.mk time) ++ past) := by
  cases h with
  | stores d activated => cases fits
  | shows s l =>
    cases fits with
    | showing leads => exact .revealed leads

/-- A session goes on with the event it took last. -/
theorem Orderly.goOn {bound : Bool} (h : Orderly symbols d past)
    (pends : Pends d past before (.selected node)) (p : Progress)
    (waits : ∀ q, p = .waiting q → q.await.Fits symbols node)
    (ends : p = .over (.ok ()) → Concludes symbols d (.selected node) (.ok ()) past) :
    Orderly symbols d ((w.reports d p).map (Entry.mk w.now) ++ past) ∧
      Stage symbols d ((w.reports d p).map (Entry.mk w.now) ++ past) (p.sessionPoint bound) := by
  match p with
  | .waiting q => exact ⟨h, .handling bound pends (waits q rfl)⟩
  | .over (.ok ()) => exact ⟨h.finish w.now pends (ends rfl), .idle bound (pends.even w.now _)⟩
  | .over (.error problem) =>
    have quiet : ∀ e ∈ (.called (.showError problem.message) ::
        (w.diagrams[d]?.map fun x => Event.noted (.eventFailed x.id problem)).toList).map
          (Entry.mk w.now), e.event.isTurnOf d = false := by
      intro e he
      obtain ⟨event, hm, rfl⟩ := List.mem_map.mp he
      simp only [List.mem_cons, Option.mem_toList, Option.map_eq_some_iff] at hm
      rcases hm with rfl | ⟨x, -, rfl⟩ <;> rfl
    have shown := pends.append quiet
    exact ⟨(h.append quiet).finish w.now shown .failed, .idle bound (shown.even w.now _)⟩

/-- Whether a diagram may still send events. -/
def Workspace.isSending (w : Workspace) (d : DiagramNo) : Bool :=
  (w.diagrams[d]?.map Diagram.sending).getD false

/-- What holds of the turns of a session in every workspace that a run reaches. -/
structure InOrder (w : Workspace) (d : DiagramNo) : Prop where
  orderly : Orderly w.symbols d w.history
  unopened : w.diagrams[d]? = none → resultsIn d w.history = []
  stage : ∀ (t : TaskNo) token p aborted ended,
    w.tasks[t]? = some ⟨.session d token p, aborted, ended⟩ → Stage w.symbols d w.history p
  ended : ∀ (t : TaskNo) token p aborted,
    w.tasks[t]? = some ⟨.session d token p, aborted, true⟩ → w.isClosed d = true ∨
      (∃ bound, p = .idle bound) ∧ w.isSending d = false ∧ sentIn d w.history = takenIn d w.history

theorem Change.symbols_eq {a : Author} (h : Change a w w') : w'.symbols = w.symbols := by
  cases h with
  | highlight s l => rw [highlight_eq]
  | retract h => rw [retract_eq]; rfl
  | openDiagram id choice hasNode =>
    obtain ⟨stores, store, -, he⟩ := openDiagram_eq w id choice hasNode
    rw [he]
  | release d =>
    obtain ⟨tasks, he, -⟩ := releaseSession_eq w d
    rw [he]
  | endService =>
    obtain ⟨tasks, he, -⟩ := endService_eq w
    rw [he]
  | _ => rfl

theorem Chain.symbols_eq {authors : List Author} (h : Chain authors w w') :
    w'.symbols = w.symbols :=
  h.keeps (P := fun u => u.symbols = w.symbols) rfl fun _ _ _ _ hu hc => hc.symbols_eq.trans hu

/-- A diagram that sends no more has sent what it has sent. -/
structure Silent (w : Workspace) (d : DiagramNo) (sent : List DiagramEvent) : Prop where
  off : ∃ x, w.diagrams[d]? = some x ∧ x.sending = false
  sent : sentIn d w.history = sent

theorem Silent.chain {authors : List Author} {sent : List DiagramEvent} (h : Silent w d sent)
    (hc : Chain authors w w') : Silent w' d sent := by
  refine hc.keeps (P := fun u => Silent u d sent) h ?_
  rintro a - u u' ⟨⟨x, hx, off⟩, sent⟩ hc
  obtain ⟨x', hx', changed⟩ := hc.diagram hx
  refine ⟨⟨x', hx', changed.forward.1 off⟩, ?_⟩
  by_cases host : a = .host
  · subst host
    cases hc with
    | @send _ e y event hd sending receiving =>
      have ne : e ≠ d := by
        rintro rfl
        obtain rfl := Option.some.inj (hd.symm.trans hx)
        rw [off] at sending
        cases sending
      refine (sentIn_sent e d u.now event u.history).trans ?_
      rw [if_neg ne, List.append_nil, sent]
    | _ => exact sent
  · rw [hc.sentIn_eq host, sent]

/-- A session ends only when it was closed, or when nothing is left and nothing can come. -/
theorem Served.ending (h : Served w) {x : Diagram} (hx : w.diagrams[d]? = some x)
    (ending : x.scope.isCancelled [0] = true ∨ x.inbox = [] ∧ x.sending = false) :
    w.isClosed d = true ∨ x.sending = false ∧ sentIn d w.history = takenIn d w.history := by
  have channel := h.channels.opened d x hx
  have deaf (off : x.receiving = false) :
      w.isClosed d = true ∨ x.sending = false ∧ sentIn d w.history = takenIn d w.history :=
    (channel.ending off).imp_left fun released => by simp [isClosed, hx, released]
  rcases ending with cancelled | ⟨empty, off⟩
  · rcases h.closing x (List.mem_of_getElem? hx) cancelled with released | atEnd
    · exact .inl (by simp [isClosed, hx, released])
    · exact deaf (by simp_all [Diagram.isAtEnd])
  · cases listens : x.receiving with
    | true => exact .inr ⟨off, by rw [channel.receives listens, empty, List.append_nil]⟩
    | false => exact deaf listens

namespace InOrder

theorem own {p q : SessionPoint} {events : List Event} {ended : Bool} (h : InOrder w d)
    (step : OwnStep w m d t p events q ended) :
    Orderly w.symbols d (w.move m).history ∧ Stage w.symbols d (w.move m).history q := by
  have stage := h.stage t _ p _ _ step.runs
  rw [step.history]
  cases step.step with
  | @starts x hd =>
    cases stage with
    | starting even =>
      have quiet : ∀ e ∈ [.noted (.sessionOpened x.id)].map (Entry.mk w.now),
          e.event.isTurnOf d = false := isTurnOf_mapped (by simp [Event.kind]) w.now
      refine ⟨h.orderly.append quiet, .idle false ?_⟩
      rw [takenIn_append quiet, resultsIn_append quiet, even]
  | ends hd ending => exact ⟨h.orderly, stage⟩
  | readies hd inbox going =>
    cases stage with
    | idle bound even =>
      have pends := Pends.take even w.now .ready
      have taken := h.orderly.take w.now .ready (handledIn_of_even even)
      exact ⟨taken.finish w.now pends .atOnce, .idle true (pends.even w.now _)⟩
  | @takes bound x node rest new p hd inbox going handles =>
    cases stage with
    | idle bound even =>
      have pends := Pends.take even w.now (.selected node)
      have taken := h.orderly.take w.now (.selected node) (handledIn_of_even even)
      have quiet := isTurnOf_mapped (d := d) handles.kind w.now
      -- What is told of the result stands above what the handling recorded, and that above the event.
      have split : (w.reports d p ++ (new ++ [Event.taken d (.selected node)])).map (Entry.mk w.now) ++
          w.history = (w.reports d p).map (Entry.mk w.now) ++
            (new.map (Entry.mk w.now) ++ ⟨w.now, .taken d (.selected node)⟩ :: w.history) := by
        simp only [List.map_append, List.map_cons, List.map_nil, List.append_assoc,
          List.cons_append, List.nil_append]
      rw [split]
      refine (taken.append quiet).goOn (pends.append quiet) p ?_ ?_
      · rintro q rfl
        exact handles.fits
      · rintro rfl
        cases handles with
        | ignores reason => exact .atOnce
  | goesOn due answers =>
    cases stage with
    | handling bound pends fits =>
      have quiet := isTurnOf_mapped (d := d) answers.kind w.now
      rw [List.map_append, List.append_assoc]
      refine (h.orderly.append quiet).goOn (pends.append quiet) _ ?_ ?_
      · rintro q rfl
        exact answers.fits fits
      · rintro rfl
        exact answers.concludes fits w.now w.history

theorem ended_move {p : SessionPoint} (hs : Served w) (m : Move) {x : Diagram}
    (hx : w.diagrams[d]? = some x)
    (before : w.isClosed d = true ∨
      (∃ bound, p = .idle bound) ∧ w.isSending d = false ∧ sentIn d w.history = takenIn d w.history) :
    (w.move m).isClosed d = true ∨ (∃ bound, p = .idle bound) ∧ (w.move m).isSending d = false ∧
      sentIn d (w.move m).history = takenIn d (w.move m).history := by
  have chain := hs.sound.move_chain m
  refine before.imp (chain.isClosed hx) fun ⟨idle, off, eq⟩ => ⟨idle, ?_⟩
  have silent : Silent w d (sentIn d w.history) :=
    ⟨⟨x, hx, by simpa [isSending, hx] using off⟩, rfl⟩
  obtain ⟨⟨x', hx', off'⟩, sent⟩ := silent.chain chain
  refine ⟨by simp [isSending, hx', off'], ?_⟩
  -- What was taken is between what was taken before and what was sent, and these are the same.
  have sub := ((hs.move m).channels.opened d x' hx').sub
  have more : takenIn d w.history <+: takenIn d (w.move m).history := by
    obtain ⟨new, hn, -⟩ := chain.history_eq
    rw [hn, takenIn, seenIn_append]
    exact List.prefix_append _ _
  have length := more.length_le
  rw [sent, eq] at sub
  rw [sent, eq]
  exact (sub.eq_of_length_le length).symm

/-- A session that takes a step keeps to the order. -/
theorem move_own {p q : SessionPoint} {events : List Event} {ended : Bool} (h : InOrder w d)
    (hs : Served w) (step : OwnStep w m d t p events q ended) : InOrder (w.move m) d := by
  have symbols := (hs.sound.move_chain m).symbols_eq
  have served := hs.move m
  obtain ⟨-, x, hx⟩ := hs.opened step.runs
  obtain ⟨orderly, stage⟩ := h.own step
  have only {t' : TaskNo} {token : Token} {p' : SessionPoint} {aborted ended' : Bool}
      (ht : (w.move m).tasks[t']? = some ⟨.session d token p', aborted, ended'⟩) :
      p' = q ∧ ended' = ended := by
    obtain rfl := served.sound.session_unique ht step.task
    obtain ⟨hp, -, rfl⟩ := Task.mk.inj (Option.some.inj (ht.symm.trans step.task))
    exact ⟨(Activity.session.inj hp).2.2, rfl⟩
  constructor
  · rw [symbols]
    exact orderly
  · intro none
    obtain ⟨-, x', hx'⟩ := served.opened step.task
    rw [none] at hx'
    cases hx'
  · intro t' token p' aborted ended' ht
    obtain ⟨rfl, -⟩ := only ht
    rw [symbols]
    exact stage
  · intro t' token p' aborted ht
    obtain ⟨rfl, rfl⟩ := only ht
    apply ended_move hs m hx
    cases step.step with
    | ends hd ending =>
      refine (hs.ending hd ending).imp_right fun ⟨off, eq⟩ => ⟨⟨_, rfl⟩, ?_, eq⟩
      simp [isSending, hd, off]

theorem session_before {x : Diagram} {p : SessionPoint} {aborted ended : Bool} (hs : Served w)
    (elsewhere : Elsewhere w (w.move m) d) (hx : w.diagrams[d]? = some x)
    (ht : (w.move m).tasks[t]? = some ⟨.session d token p, aborted, ended⟩) :
    ∃ ended', w.tasks[t]? = some ⟨.session d token p, w.isClosed d, ended'⟩ ∧
      (ended = true → ended' = true ∨ w.isClosed d = true) := by
  obtain ⟨s, q, ended', hs'⟩ := hs.session hx
  obtain ⟨aborted', ended'', ht', why⟩ := elsewhere.task s _ q _ _ hs'
  obtain rfl := (hs.move m).sound.session_unique ht ht'
  obtain ⟨hp, -, rfl⟩ := Task.mk.inj (Option.some.inj (ht.symm.trans ht'))
  obtain ⟨-, rfl, rfl⟩ := Activity.session.inj hp
  exact ⟨ended', hs', why⟩

theorem move_elsewhere (h : InOrder w d) (hs : Served w) (elsewhere : Elsewhere w (w.move m) d) :
    InOrder (w.move m) d := by
  have chain := hs.sound.move_chain m
  have symbols := chain.symbols_eq
  obtain ⟨new, hn, quiet⟩ := elsewhere.history
  constructor
  · rw [symbols, hn]
    exact h.orderly.append quiet
  · intro absent
    have unopened : w.diagrams[d]? = none := by
      rw [List.getElem?_eq_none_iff] at absent ⊢
      exact Nat.le_trans chain.diagrams_le absent
    rw [hn, resultsIn_append quiet, h.unopened unopened]
  · intro t token p aborted ended ht
    rw [symbols, hn]
    apply Stage.append _ quiet
    cases hx : w.diagrams[d]? with
    | none =>
      obtain ⟨rfl, -⟩ := hs.sound.session_opened hx ht
      exact .starting (by rw [h.unopened hx, (hs.channels.unopened d hx).2]; rfl)
    | some x =>
      obtain ⟨ended', ht', -⟩ := session_before hs elsewhere hx ht
      exact h.stage t token p _ _ ht'
  · intro t token p aborted ht
    cases hx : w.diagrams[d]? with
    | none =>
      obtain ⟨-, none⟩ := hs.sound.session_opened hx ht
      cases none
    | some x =>
      obtain ⟨ended', ht', why⟩ := session_before hs elsewhere hx ht
      apply ended_move hs m hx
      rcases why rfl with rfl | closed
      · exact h.ended t token p _ ht'
      · exact .inl closed

theorem move (h : InOrder w d) (hs : Served w) (m : Move) : InOrder (w.move m) d := by
  rcases hs.sound.session_cases d m with ⟨t, p, events, q, ended, step⟩ | ⟨elsewhere, -⟩
  · exact h.move_own hs step
  · exact h.move_elsewhere hs elsewhere

theorem run (h : InOrder w d) (hs : Served w) (moves : List Move) : InOrder (w.run moves) d :=
  hs.keeps_run (P := fun u => InOrder u d) h (fun m hu h => h.move hu m) moves

theorem new (settings : Settings) (visible : List Url) (symbols : List Symbol) (conduct : Conduct) :
    InOrder (.new settings visible symbols conduct) d := by
  have start := Served.new settings visible symbols conduct
  have none {t : TaskNo} {token : Token} {p : SessionPoint} {aborted ended : Bool}
      (ht : (Workspace.new settings visible symbols conduct).tasks[t]? =
        some ⟨.session d token p, aborted, ended⟩) : False := by
    obtain ⟨-, x, hx⟩ := start.opened ht
    cases hx
  have empty : Orderly symbols d [] := by
    constructor
    · intro past time e hs
      cases List.suffix_nil.mp hs
    · intro past time result hs
      cases List.suffix_nil.mp hs
  constructor
  · exact empty.cons rfl
  · exact fun _ => rfl
  · exact fun t token p aborted ended ht => (none ht).elim
  · exact fun t token p aborted ht => (none ht).elim

end InOrder

end DiagramLinks
