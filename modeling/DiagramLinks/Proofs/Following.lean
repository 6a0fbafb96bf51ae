import DiagramLinks.Proofs.EventOrder
import DiagramLinks.Proofs.LinkRoundTrip
import DiagramLinks.Proofs.RevealCourse

namespace DiagramLinks

open Workspace

variable {w u : Workspace} {t : TaskNo} {d d' : DiagramNo} {m : Move} {a : Await} {b b' : Activity}
  {n : Nat} {p : Progress} {r : Reveal} {label : String} {link : Json} {new : List Event}
  {more later : List Move}

/-- A location is linked to a node: its link is attached with the move that begins a reveal of the location,
and the linking succeeds when this reveal does. -/
structure Reveal.Confirms (r : Reveal) (w : Workspace) (m : Move) (more : List Move) (d : DiagramNo)
    (link : Json) : Prop where
  begins : r.Begins w m
  attaches : ∃ time, ⟨time, .carriedOut (.attachLink d link)⟩ ∈ w.recordedBy r.task m
  succeeds : r.outcomes w m more = [.ok ()]

/-- The session of an activated diagram is the task `t`, and with its next step it takes the selection of a
node that carries a link. -/
structure Workspace.Selects (w : Workspace) (t : TaskNo) (d : DiagramNo) (label : String) (link : Json) :
    Prop where
  activated : w.isActivated d = true
  takes : ∃ time, ⟨time, .taken d (.selected (.ofData label (some link)))⟩ ∈ w.recordedBy t (.step t)

/-- While a reveal is under way that begins in `w` with the move `m`, its task is not dropped, and none of its
calls fails. -/
def Reveal.Accepted (r : Reveal) (w : Workspace) (m : Move) (more : List Move) : Prop :=
  ∀ before after a u, more = before ++ .step r.task :: after → u = (w.move m).run before →
    r.Lasts (w.move m) before → r.RestsIn a u → ¬r.IsAborted u ∧ ∀ p, (u.answer a).2 ≠ .over (.error p)

/-- A call to an editor without the numbers that hosts gave. That an earlier highlight is cleared counts for
nothing. -/
def Call.unnumbered? : Call → Option Call
  | .revealRange _ range => some (.revealRange 0 range)
  | .createDecoration _ color => some (.createDecoration 0 color)
  | .paint _ _ [] => none
  | .paint _ _ ranges => some (.paint 0 0 ranges)
  | c => some c

/-- The same reveal by another task. -/
def Reveal.again (r : Reveal) (t : TaskNo) : Reveal := { r with task := t }

/-- What holds of a link that `r` has confirmed, when the session with the task `t` takes it in `u`. -/
structure Reveal.Repeats (r : Reveal) (w : Workspace) (m : Move) (more : List Move) (u : Workspace)
    (t : TaskNo) (label : String) (link : Json) : Prop where
  present : link.isPresent = true
  carried : (NodeSelection.ofData label (some link)).link = some link
  /-- It is read as the location that was linked. -/
  location : Location.ofJson link = .ok r.location
  begins : (r.again t).Begins u (.step t)
  /-- Symbols are not asked for. -/
  direct : ∀ later name, .findSymbols name ∉ (r.again t).calls u (.step t) later
  /-- Where the editor accepts the calls, two steps are enough. -/
  succeeds : ∀ later, (r.again t).Accepted u (.step t) later → 2 ≤ (u.step t).stepsOf t later →
    (r.again t).outcomes u (.step t) later = [.ok ()]
  /-- When it succeeds it has made the same calls. -/
  same : ∀ later, (r.again t).outcomes u (.step t) later = [.ok ()] →
    ((r.again t).calls u (.step t) later).filterMap Call.unnumbered? =
      (r.calls w m more).filterMap Call.unnumbered?

theorem Link.isPresent_toJson (link : Link) : link.toJson.isPresent = true := rfl

theorem Answers.attached (h : Answers w a new p) (mem : .carriedOut (.attachLink d link) ∈ new) :
    ∃ l, a = .attaching d l ∧ link = (Link.ofLocation l).toJson := by
  cases h with
  | attaches hd =>
    simp only [Await.call, List.mem_cons, reduceCtorEq, Event.carriedOut.injEq, Call.attachLink.injEq,
      List.not_mem_nil, or_false, false_or] at mem
    obtain ⟨rfl, rfl⟩ := mem
    exact ⟨_, rfl, rfl⟩
  | shows s l => simp [highlightEvents, clearing, Await.call] at mem
  | _ => simp [Await.call] at mem

theorem WorkStep.attached (h : WorkStep w b new b') (mem : .carriedOut (.attachLink d link) ∈ new) :
    ∃ l, b.await? = some (.attaching d l) ∧ link = (Link.ofLocation l).toJson := by
  cases h with
  | session h =>
    rcases h.mem mem with telling | ⟨_, taken⟩ | ⟨_, _, _, handles, he⟩ | ⟨_, q, _, _, rfl, answers, he⟩
    · cases telling
    · cases taken
    · cases handles <;> simp at he
    · obtain ⟨l, rests, written⟩ := answers.attached he
      exact ⟨l, congrArg some rests, written⟩
  | job tag h =>
    rcases List.mem_append.mp mem with told | he
    · cases isTelling_of_concludes _ tag _ _ told
    · cases h with
      | starts starts =>
        cases starts with
        | handles handles => cases handles <;> simp at he
        | _ => simp at he
      | goesOn due answers =>
        obtain ⟨l, rests, written⟩ := answers.attached he
        exact ⟨l, congrArg some rests, written⟩

/-- What a task records besides asides, it records with a step of its work. -/
theorem Sound.recorded_work {e : Event} (hw : Sound w) (mem : ⟨n, e⟩ ∈ w.recordedBy t (.step t))
    (work : e.isAside = false) : ∃ b new b', w.runs t b ∧ w.isReady t = true ∧
      WorkStep w b new b' ∧ e ∈ new := by
  rcases move_aside w (.step t) with ⟨new, hn, aside⟩ | ⟨_, b, same, ht, work, ready⟩
  · rw [Reveal.recordedBy_step hn] at mem
    rw [aside _ mem] at work
    cases work
  · obtain rfl := Move.step.inj same
    obtain ⟨new, b', -, step, history, -⟩ := hw.step_work ht work ready
    rw [Reveal.recordedBy_step history] at mem
    exact ⟨b, new, b', ht, ready, step, (mem_map_mk.mp mem).2⟩

namespace Reveal

/-- The link that a reveal confirms is written from its location. -/
theorem Begins.attached {time : Nat} (h : r.Begins w m) (hw : Sound w)
    (mem : ⟨time, .carriedOut (.attachLink d link)⟩ ∈ w.recordedBy r.task m) :
    link = (Link.ofLocation r.location).toJson := by
  obtain ⟨rfl, rests, -⟩ := h.opens hw
  obtain ⟨b, new, b', runs, ready, step, he⟩ := hw.recorded_work mem rfl
  obtain ⟨l, attaching, written⟩ := step.attached he
  obtain ⟨_, _, go⟩ := hw.step_goes runs attaching ready
  -- The task rests in the call that the answer led to, so the answer was not an error.
  have next : (w.answer (.attaching d l)).2.await? = some r.opening := go.rests.symm.trans rests
  have answers := go.answers
  generalize (w.answer (.attaching d l)).2 = p at answers next
  cases answers with
  | fails => cases next
  | attaches hd =>
    obtain ⟨-, rfl⟩ := Await.opening.inj (Option.some.inj next)
    exact written

end Reveal

theorem SessionStep.took {token : Token} {node : NodeSelection} {p q : SessionPoint} {ended : Bool}
    (h : SessionStep w d token p new q ended) (mem : .taken d (.selected node) ∈ new) :
    ∃ bound events r, p = .idle bound ∧ Handles w d node events r ∧ q = r.sessionPoint bound ∧
      ended = false := by
  have untold {r : Progress} (told : .taken d (.selected node) ∈ w.reports d r) : False := by
    cases isTelling_of_reports r _ told
  cases h with
  | starts hd => simp at mem
  | ends hd ending => cases mem
  | readies hd inbox going => simp at mem
  | @takes bound x node' rest events r hd inbox going handles =>
    rcases List.mem_append.mp mem with told | mem
    · exact (untold told).elim
    rcases List.mem_append.mp mem with handled | last
    · exact absurd rfl (handles.kind _ handled)
    · obtain ⟨-, same⟩ := Event.taken.inj (List.mem_singleton.mp last)
      obtain rfl := DiagramEvent.selected.inj same
      exact ⟨bound, events, r, rfl, handles, rfl, rfl⟩
  | goesOn due answers =>
    rcases List.mem_append.mp mem with told | answered
    · exact (untold told).elim
    · exact absurd rfl (answers.kind _ answered)

theorem Sound.took {node : NodeSelection} (hw : Sound w)
    (mem : ⟨n, .taken d (.selected node)⟩ ∈ w.recordedBy t (.step t)) :
    ∃ bound events p, w.runs t (.session d [0] (.idle bound)) ∧ Handles w d node events p ∧
      (w.step t).runs t (.session d [0] (p.sessionPoint bound)) := by
  rcases hw.session_cases d (.step t) with ⟨s, p, events, q, ended, own⟩ | ⟨elsewhere, -⟩
  · obtain rfl := Move.step.inj own.move
    rw [Reveal.recordedBy_step own.history] at mem
    obtain ⟨-, he⟩ := mem_map_mk.mp mem
    obtain ⟨bound, events, r, rfl, handles, rfl, rfl⟩ := own.step.took he
    exact ⟨bound, events, r, own.runs, handles, own.task⟩
  · obtain ⟨new, hn, quiet⟩ := elsewhere.history
    rw [Reveal.recordedBy_step hn] at mem
    have turn := quiet _ mem
    simp [Event.isTurnOf] at turn

/-- A node with a link that can be read is followed at once, if its diagram is activated. -/
theorem Handles.opening_of_link {node : NodeSelection} {l : Location} (h : Handles w d node new p)
    (activated : w.isActivated d = true) (carried : node.link = some link)
    (read : Location.ofJson link = .ok l) : p = .waiting (w.pending (.opening w.revealer.settings l)) := by
  cases h with
  | ignores reason => simp [activated, carried] at reason
  | malformed carried' bad =>
    obtain rfl := Option.some.inj (carried.symm.trans carried')
    rw [read] at bad
    cases bad
  | follows carried' good =>
    obtain rfl := Option.some.inj (carried.symm.trans carried')
    rw [read] at good
    cases good
    rfl
  | searches none tag =>
    rw [carried] at none
    cases none

namespace Reveal

/-- A reveal begins with the selection of a node whose link is read as its location. -/
theorem begins_of_selects (hw : Sound w) (h : w.Selects r.task d label link)
    (present : link.isPresent = true) (read : Location.ofJson link = .ok r.location)
    (configured : w.revealer.settings = r.settings) : r.Begins w (.step r.task) := by
  obtain ⟨activated, time, mem⟩ := h
  obtain ⟨bound, events, p, runs, handles, next⟩ := hw.took mem
  obtain rfl := handles.opening_of_link activated (NodeSelection.link_ofData present) read
  constructor
  · exact not_underway runs rfl
  · left
    refine restsIn_iff.mpr ⟨_, false, next, ?_⟩
    rw [configured]
    rfl

end Reveal

theorem stepsOf_step (w : Workspace) (t : TaskNo) (more : List Move) :
    w.stepsOf t (.step t :: more) =
      (if w.isReady t = true then 1 else 0) + (w.step t).stepsOf t more := by
  simp [stepsOf, move, Move.needsService, carryOut]

theorem stepsOf_other (other : m ≠ .step t) (more : List Move) :
    w.stepsOf t (m :: more) = (w.move m).stepsOf t more := by
  cases m with
  | step s =>
    have ne : s ≠ t := fun same => other (same ▸ rfl)
    simp [stepsOf, ne]
  | _ => simp [stepsOf]

namespace Reveal

/-- As long as a reveal is under way, its task takes fewer steps than are left of it. -/
theorem RestsIn.steps_lt (h : r.RestsIn a w) (hw : Sound w) (ha : a = r.opening ∨ a = r.showing)
    (lasts : r.Lasts w more) : w.stepsOf r.task more < a.left := by
  induction more generalizing w a with
  | nil => rcases ha with rfl | rfl <;> simp [stepsOf, opening, showing, Await.left]
  | cons m more ih =>
    obtain ⟨-, lasts⟩ := lasts
    by_cases own : m = .step r.task
    · subst own
      change r.Lasts (w.step r.task) more at lasts
      have next : Sound (w.step r.task) := hw.move (.step r.task)
      rw [stepsOf_step]
      obtain ⟨new, -, step⟩ := h.step hw ha
      cases step with
      | idles unready =>
        rw [step_of_unready unready] at lasts ⊢
        simpa [unready] using ih h hw ha lasts
      | opens going answer made told rests same =>
        have later := ih rests next (.inr rfl) lasts
        simp only [opening, showing, Await.left] at later ⊢
        split <;> omega
      | drops aborted gone same => exact absurd lasts.start gone
      | fails going answer made told gone same => exact absurd lasts.start gone
      | shows going answer made told gone same => exact absurd lasts.start gone
    · rw [stepsOf_other own]
      exact ih (h.move hw own) (hw.move m) ha lasts

/-- Where the editor accepts all that a reveal asks for, two steps bring it to its end. -/
theorem Begins.succeeds (h : r.Begins w m) (hw : Sound w) (accepted : r.Accepted w m more)
    (enough : 2 ≤ (w.move m).stepsOf r.task more) : r.outcomes w m more = [.ok ()] := by
  have gone : ¬r.Lasts (w.move m) more := by
    intro lasts
    obtain ⟨rfl, rests, -⟩ := h.opens hw
    have few := rests.steps_lt (hw.move (.step r.task)) (.inl rfl) lasts
    exact absurd few (Nat.not_lt.mpr enough)
  obtain ⟨before, after, rfl, lasts, ended⟩ := h.after.ends (hw.move m) gone
  obtain ⟨a, -, rests⟩ := lasts.underway.rests
  obtain ⟨going, fine⟩ := accepted before after a _ rfl rfl lasts rests
  cases h.ending hw rfl lasts rests ended after with
  | drops aborted reached none => exact absurd aborted going
  | fails going answer reached failed => exact absurd answer (fine _)
  | shows going answer paints => exact paints.outcomes

theorem unnumbered_script (r : Reveal) (new : Highlight) (previous : Option Highlight) :
    (r.script new previous).filterMap Call.unnumbered? = r.script ⟨0, 0⟩ none := by
  cases previous <;> rfl

theorem findSymbols_not_mem_script (r : Reveal) (new : Highlight) (previous : Option Highlight)
    (name : String) : .findSymbols name ∉ r.script new previous := by
  cases previous <;> simp [script, painting]

/-- Up to their numbers, the calls of a reveal that succeeds depend on its location and its settings alone. -/
theorem Begins.unnumbered_calls (h : r.Begins w m) (hw : Sound w)
    (succeeds : r.outcomes w m more = [.ok ()]) :
    (r.calls w m more).filterMap Call.unnumbered? = r.script ⟨0, 0⟩ none := by
  obtain ⟨new, previous, through⟩ := ((h.allOrNothing hw).complete more).mpr succeeds
  rw [through, unnumbered_script]

theorem Confirms.repeats (h : r.Confirms w m more d link) (hw : Sound w) (hu : Sound u)
    (selects : u.Selects t d' label link) (configured : u.revealer.settings = r.settings) :
    r.Repeats w m more u t label link := by
  obtain ⟨time, attached⟩ := h.attaches
  obtain rfl := h.begins.attached hw attached
  have present := Link.isPresent_toJson (Link.ofLocation r.location)
  have read := Location.ofJson_toJson r.location
  have begins : (r.again t).Begins u (.step t) := begins_of_selects hu selects present read configured
  constructor
  case present => exact present
  case carried => exact NodeSelection.link_ofData present
  case location => exact read
  case begins => exact begins
  case direct =>
    intro later name mem
    obtain ⟨new, previous, ordered⟩ := (begins.allOrNothing hu).ordered later
    exact findSymbols_not_mem_script _ new previous name (ordered.subset mem)
  case succeeds => exact fun later accepted enough => begins.succeeds hu accepted enough
  case same =>
    intro later succeeds
    rw [begins.unnumbered_calls hu succeeds, h.begins.unnumbered_calls hw h.succeeds]
    rfl

end Reveal

/-- A link that was confirmed is followed by every session of an activated diagram that takes a node with it,
in the same workspace or in another one, whatever is visible and whatever symbols there are: the session
makes the calls of the reveal that confirmed it. -/
theorem run_repeatsConfirmation (settings settings' : Settings) (visible visible' : List Url)
    (symbols symbols' : List Symbol) (conduct conduct' : Conduct) (moves moves' : List Move)
    {r : Reveal} {m : Move} {more : List Move} {d d' : DiagramNo} {t : TaskNo} {label : String} {link : Json}
    (confirms : r.Confirms ((Workspace.new settings visible symbols conduct).run moves) m more d link)
    (selects : ((Workspace.new settings' visible' symbols' conduct').run moves').Selects t d' label link)
    (configured :
      ((Workspace.new settings' visible' symbols' conduct').run moves').revealer.settings = r.settings) :
    r.Repeats ((Workspace.new settings visible symbols conduct).run moves) m more
      ((Workspace.new settings' visible' symbols' conduct').run moves') t label link :=
  confirms.repeats ((Sound.new settings visible symbols conduct).run moves)
    ((Sound.new settings' visible' symbols' conduct').run moves') selects configured

/-- A reversed range is linked, and in another workspace a node of the name of a symbol comes with the link.
The symbol is not looked for, and the event succeeds with the calls of the first reveal. -/
theorem reversed_repeatsConfirmation :
    let id : Url := ⟨"file:///flow.drawio", by decide +kernel⟩
    let l : Location := ⟨⟨"file:///flow.rs", by decide +kernel⟩, ⟨⟨8, 4⟩, ⟨2, 0⟩⟩⟩
    let link := (Link.ofLocation l).toJson
    let r : Reveal := ⟨2, .default, l⟩
    let w := (Workspace.new .default [] [] (.prompt false false)).run
      [.openDiagram id (.fresh false) true false, .request (.linkLocation 0 l) none, .step 2]
    let u := (Workspace.new .default [id] [⟨"main", none, ⟨id, l.range⟩⟩] (.prompt false false)).run
      [.openDiagram id (.fresh true) true false, .step 1,
        .send 0 (.selected (.ofData "#main" (some link)))]
    r.Confirms w (.step 2) [.step 2, .step 2] 0 link ∧ u.Selects 1 0 "#main" link ∧
      r.Repeats w (.step 2) [.step 2, .step 2] u 1 "#main" link ∧
      (r.again 1).outcomes u (.step 1) [.step 1, .step 1] = [.ok ()] := by
  intro id l link r w u
  have attached : (w.recordedBy 2 (.step 2))[2]? = some ⟨0, .carriedOut (.attachLink 0 link)⟩ := by
    dsimp only [id, l, link, w]
    rfl
  have taken : (u.recordedBy 1 (.step 1))[1]? =
      some ⟨0, .taken 0 (.selected (.ofData "#main" (some link)))⟩ := by
    dsimp only [id, l, link, u]
    rfl
  have linked : r.outcomes w (.step 2) [.step 2, .step 2] = [.ok ()] := by
    dsimp only [id, l, r, w]
    rfl
  have followed : (r.again 1).outcomes u (.step 1) [.step 1, .step 1] = [.ok ()] := by
    dsimp only [id, l, link, r, u]
    rfl
  have confirms : r.Confirms w (.step 2) [.step 2, .step 2] 0 link :=
    ⟨⟨by decide +kernel, by decide +kernel⟩, ⟨0, List.mem_of_getElem? attached⟩, linked⟩
  have selects : u.Selects 1 0 "#main" link := ⟨by decide +kernel, 0, List.mem_of_getElem? taken⟩
  have configured : u.revealer.settings = r.settings := by decide +kernel
  exact ⟨confirms, selects, run_repeatsConfirmation _ _ _ _ _ _ _ _ _ _ confirms selects configured,
    followed⟩

end DiagramLinks
