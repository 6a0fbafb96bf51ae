import DiagramLinks.Proofs.Channel
import DiagramLinks.Proofs.Highlight
import DiagramLinks.Proofs.Retraction

namespace DiagramLinks

open Workspace

variable {w w' u : Workspace} {t : TaskNo} {d : DiagramNo} {m : Move} {a : Await} {new : List Event}
  {p : Progress} {s : Settings} {l : Location} {h : Highlight}

/-- What a call reveals, and the settings of the reveal. -/
def Await.reveals? : Await → Option (Settings × Location)
  | .opening s l => some (s, l)
  | .showing s l => some (s, l)
  | _ => none

def Activity.reveals? : Activity → Option (Settings × Location)
  | .session _ _ (.handling _ q) => q.await.reveals?
  | .job _ _ (.waiting q) => q.await.reveals?
  | _ => none

/-- The call that an activity rests in. -/
def Activity.await? : Activity → Option Await
  | .session _ _ (.handling _ q) => some q.await
  | .job _ _ (.waiting q) => some q.await
  | _ => none

theorem reveals?_eq (b : Activity) : b.reveals? = b.await?.bind Await.reveals? := by
  cases b with
  | session d token p => cases p <;> rfl
  | job r tag q => cases q <;> rfl
  | _ => rfl

/-- A reveal, and the task that it is a part of. -/
@[ext]
structure Reveal where
  task : TaskNo
  settings : Settings
  location : Location

namespace Reveal

/-- A reveal waits until its document is opened or shown. -/
def InFlight (r : Reveal) (w : Workspace) : Prop :=
  ∃ b, w.runs r.task b ∧ b.reveals? = some (r.settings, r.location)

end Reveal

/-- What a task reveals that has not ended. -/
def Task.reveals? (x : Task) : Option (Settings × Location) :=
  if x.aborted || x.ended then none else x.activity.reveals?

theorem Reveal.inFlight_iff {r : Reveal} :
    r.InFlight w ↔ w.tasks[r.task]?.bind Task.reveals? = some (r.settings, r.location) := by
  constructor
  · rintro ⟨b, ht, hb⟩
    simpa [ht, Task.reveals?] using hb
  · intro h
    obtain ⟨⟨b, aborted, ended⟩, hx, reveals⟩ := Option.bind_eq_some_iff.mp h
    unfold Task.reveals? at reveals
    split at reveals
    · cases reveals
    · next running =>
      simp only [Bool.or_eq_true, not_or, Bool.not_eq_true] at running
      obtain ⟨rfl, rfl⟩ := running
      exact ⟨b, hx, reveals⟩

instance (r : Reveal) (w : Workspace) : Decidable (r.InFlight w) :=
  decidable_of_iff _ Reveal.inFlight_iff.symm

/-- The document that a reveal starts with. -/
def Event.begins? : Event → Option Url
  | .called (.openDocument uri) => some uri
  | _ => none

/-- Whether an event may go before a reveal in the step that begins it. -/
def Event.isPreparation : Event → Bool
  | .taken _ _ => true
  | .noted _ => true
  | .carriedOut (.attachLink _ _) => true
  | .carriedOut (.findSymbols _) => true
  | _ => false

/-- The documents that reveals were started with. -/
def begunIn : List Entry → List Url := seenIn Event.begins?

/-- The document that a host shows, its column, and whether the focus stays where it is. -/
def Event.shown? : Event → Option (Url × UInt32 × Bool)
  | .carriedOut (.showDocument uri column keepFocus) => some (uri, column, keepFocus)
  | _ => none

/-- What was shown last. -/
def lastShown? (history : List Entry) : Option (Url × UInt32 × Bool) :=
  history.findSome? fun entry => entry.event.shown?

def Event.highlights? : Event → Option (Highlight × Settings × Location)
  | .highlighted h s l => some (h, s, l)
  | _ => none

/-- The highlights of the reveals that succeeded, each with what it was painted for. -/
def highlightsIn : List Entry → List (Highlight × Settings × Location) := seenIn Event.highlights?

/-- With the next step of its task a reveal succeeds, and `h` is its highlight. -/
def Reveal.Highlights (r : Reveal) (h : Highlight) (w : Workspace) : Prop :=
  highlightsIn (w.step r.task).history = highlightsIn w.history ++ [(h, r.settings, r.location)]

instance (r : Reveal) (h : Highlight) (w : Workspace) : Decidable (r.Highlights h w) :=
  inferInstanceAs (Decidable (_ = _))

/-- Whether an event shows a document or highlights a range in it. -/
def Event.shows (e : Event) : Bool :=
  e.shown?.isSome || e.reveal?.isSome

/-- The second of two reveals is started, by a move, while the first one waits. -/
structure Overlaps (w : Workspace) (m : Move) (first second : Reveal) : Prop where
  waits : first.InFlight w
  begins : ¬second.InFlight w
  begun : second.InFlight (w.move m)

/-- A reveal has the highlight and the pane: its range is painted and no other one, and its document was
shown last. -/
structure Reveal.Prevails (r : Reveal) (h : Highlight) (w : Workspace) : Prop where
  active : w.revealer.active = some h
  painted : paintedIn w.history h = [r.location.revealRange]
  only : ∀ h', paintedIn w.history h' ≠ [] → h' = h
  pane : lastShown? w.history = some (r.location.uri, r.settings.column, true)

/-- An activity begins a reveal: after what may go before, it asks for the document, under the settings
of the moment. The events stand the latest first. -/
structure Opens (w : Workspace) (s : Settings) (l : Location) (new : List Event) : Prop where
  configured : s = w.revealer.settings
  asks : ∃ rest, new = .called (.openDocument l.uri) :: rest ∧ ∀ e ∈ rest, e.isPreparation = true

theorem Opens.begins (h : Opens w s l new) : ∃ e ∈ new, e.begins? ≠ none := by
  obtain ⟨rest, rfl, -⟩ := h.asks
  exact ⟨_, List.mem_cons_self, by simp [Event.begins?]⟩

theorem Opens.concat {e : Event} (h : Opens w s l new) (he : e.isPreparation = true) :
    Opens w s l (new ++ [e]) := by
  obtain ⟨configured, rest, rfl, before⟩ := h
  refine ⟨configured, rest ++ [e], rfl, fun e' he' => ?_⟩
  rcases List.mem_append.mp he' with he' | he'
  · exact before e' he'
  · rwa [List.mem_singleton.mp he']

theorem Answers.reveals {q : Pending} (ha : Answers w a new (.waiting q))
    (hq : q.await.reveals? = some (s, l)) :
    a = .opening s l ∧ q.await = .showing s l ∨ q.await = .opening s l ∧ Opens w s l new := by
  have asks {rest : List Event} (before : ∀ e ∈ rest, e.isPreparation = true) :
      Opens w w.revealer.settings l (.called (.openDocument l.uri) :: rest) :=
    ⟨rfl, rest, rfl, before⟩
  cases ha with
  | asks selected => cases hq
  | attaches hd =>
    cases hq
    exact .inr ⟨rfl, asks (by simp [Event.isPreparation, Await.call])⟩
  | finds best =>
    cases hq
    exact .inr ⟨rfl, asks (by simp [Event.isPreparation])⟩
  | opens s' l' =>
    cases hq
    exact .inl ⟨rfl, rfl⟩

theorem Answers.silent (ha : Answers w a new p) (none : a.reveals? = none) :
    ∀ e ∈ new, e.shows = false := by
  cases ha with
  | opens => cases none
  | shows => cases none
  | _ => simp [Event.shows, Event.shown?, Event.reveal?, Await.call]

theorem Answers.of_highlighted (ha : Answers w a new p) (mem : .highlighted h s l ∈ new) :
    a = .showing s l ∧ h = w.nextHighlight s l ∧ p = .over (.ok ()) ∧
      new = w.highlightEvents s l ++ [.carriedOut (Await.showing s l).call] := by
  cases ha with
  | shows s' l' =>
    rcases List.mem_append.mp mem with mem | mem
    · obtain ⟨rfl, rfl, rfl⟩ := Lit.highlighted_mem mem
      exact ⟨rfl, rfl, rfl, rfl⟩
    · simp at mem
  | _ => simp at mem

theorem Handles.opens {node : NodeSelection} {q : Pending} (hh : Handles w d node new (.waiting q))
    (hq : q.await.reveals? = some (s, l)) : q.await = .opening s l ∧ Opens w s l new := by
  cases hh with
  | follows link good =>
    cases hq
    exact ⟨rfl, rfl, [], rfl, by simp⟩
  | searches link tag => cases hq

theorem Handles.silent {node : NodeSelection} (hh : Handles w d node new p) :
    ∀ e ∈ new, e.shows = false := by
  cases hh <;> simp [Event.shows, Event.shown?, Event.reveal?, Await.call]

theorem Starts.opens {r : Request} {q : Pending} (hr : Starts w r new (.waiting q))
    (hq : q.await.reveals? = some (s, l)) : q.await = .opening s l ∧ Opens w s l new := by
  cases hr with
  | handles hh => exact hh.opens hq
  | reveals l =>
    cases hq
    exact ⟨rfl, rfl, [], rfl, by simp⟩
  | _ => cases hq

theorem Starts.silent {r : Request} (hr : Starts w r new p) : ∀ e ∈ new, e.shows = false := by
  cases hr with
  | handles hh => exact hh.silent
  | _ => simp [Event.shows, Event.shown?, Event.reveal?, Await.call]

/-- A step of a job or a session, from one activity to the next. -/
inductive WorkStep (w : Workspace) : Activity → List Event → Activity → Prop
  | session {d token p new q ended} (h : SessionStep w d token p new q ended) :
      WorkStep w (.session d token p) new (.session d token q)
  | job {r q new p} (tag : Option String) (h : JobStep w r q new p) :
      WorkStep w (.job r tag q) (r.concludes tag p ++ new) (.job r tag p.jobPoint)

theorem Sound.step_work (hw : Sound w) {b : Activity} (ht : w.runs t b) (work : b.isWork = true)
    (ready : w.isReady t = true) : ∃ new b' ended, WorkStep w b new b' ∧
      (w.step t).history = new.map (Entry.mk w.now) ++ w.history ∧
      (w.step t).tasks[t]? = some ⟨b', false, ended⟩ := by
  cases b with
  | session d token p =>
    obtain ⟨new, q, ended, step, history, task⟩ := hw.step_session ht ready
    exact ⟨new, _, ended, .session step, history, task⟩
  | job r tag q =>
    obtain ⟨new, p, step, history, task⟩ := hw.step_job ht ready
    exact ⟨_, _, _, .job tag step, history, task⟩
  | _ => cases work

theorem shows_of_isTelling {e : Event} (telling : e.isTelling = true) : e.shows = false := by
  unfold Event.isTelling at telling
  split at telling <;> first | rfl | cases telling

theorem shows_of_isAside {e : Event} (aside : e.isAside = true) : e.shows = false := by
  unfold Event.isAside at aside
  split at aside <;> first | rfl | cases aside

namespace WorkStep

variable {b b' : Activity}

/-- A reveal that is under way after a step was so before, unless the step has begun it. -/
theorem reveals (h : WorkStep w b new b') (hb : b'.await? = some a)
    (ha : a.reveals? = some (s, l)) :
    b.await? = some (.opening s l) ∧ a = .showing s l ∨ a = .opening s l ∧ Opens w s l new := by
  cases h with
  | session h =>
    cases h with
    | @takes bound x node rest new p hd inbox going h =>
      cases p with
      | waiting q =>
        cases hb
        obtain ⟨opening, opens⟩ := h.opens ha
        exact .inr ⟨opening, opens.concat rfl⟩
      | _ => cases hb
    | @goesOn bound q new p due h =>
      cases p with
      | waiting q' =>
        cases hb
        exact (h.reveals ha).imp (fun ⟨before, after⟩ => ⟨congrArg some before, after⟩) id
      | _ => cases hb
    | _ => cases hb
  | @job r q new p tag h =>
    cases p with
    | waiting q' =>
      cases hb
      cases h with
      | starts h => exact .inr (h.opens ha)
      | goesOn due h =>
        exact (h.reveals ha).imp (fun ⟨before, after⟩ => ⟨congrArg some before, after⟩) id
    | _ => cases hb

theorem silent (h : WorkStep w b new b') (none : b.reveals? = none) :
    ∀ e ∈ new, e.shows = false := by
  intro e he
  cases h with
  | session h =>
    rcases h.mem he with telling | ⟨_, rfl⟩ | ⟨node, events, r, h, he⟩ | ⟨_, q, events, r, rfl, h, he⟩
    · exact shows_of_isTelling telling
    · rfl
    · exact h.silent e he
    · exact h.silent none e he
  | job tag h =>
    rcases List.mem_append.mp he with he | he
    · exact shows_of_isTelling (isTelling_of_concludes _ tag _ e he)
    · cases h with
      | starts h => exact h.silent e he
      | goesOn due h => exact h.silent none e he

/-- A step that highlights a location has shown its document, and its reveal is through. -/
theorem of_highlighted (step : WorkStep w b new b') (mem : .highlighted h s l ∈ new) :
    h = w.nextHighlight s l ∧ b'.reveals? = none ∧ ∃ after, (∀ e ∈ after, e.isTelling = true) ∧
      new = after ++ (w.highlightEvents s l ++ [.carriedOut (Await.showing s l).call]) := by
  have answered {a : Await} {more after : List Event} {p : Progress} (ha : Answers w a more p)
      (telling : ∀ e ∈ after, e.isTelling = true) (mem : .highlighted h s l ∈ after ++ more) :
      h = w.nextHighlight s l ∧ p = .over (.ok ()) ∧
        more = w.highlightEvents s l ++ [.carriedOut (Await.showing s l).call] := by
    rcases List.mem_append.mp mem with mem | mem
    · cases telling _ mem
    · exact (ha.of_highlighted mem).2
  cases hb : b.reveals? with
  | none => cases step.silent hb _ mem
  | some reveal =>
    cases step with
    | session step =>
      cases step with
      | goesOn due ha =>
        obtain ⟨rfl, rfl, rfl⟩ := answered ha (isTelling_of_reports _) mem
        exact ⟨rfl, rfl, _, isTelling_of_reports _, rfl⟩
      | _ => cases hb
    | job tag step =>
      cases step with
      | goesOn due ha =>
        obtain ⟨rfl, rfl, rfl⟩ := answered ha (isTelling_of_concludes _ tag _) mem
        exact ⟨rfl, rfl, _, isTelling_of_concludes _ tag _, rfl⟩
      | starts => cases hb

end WorkStep

theorem begunIn_mapped (time : Nat) (new : List Event) (past : List Entry) :
    begunIn (new.map (Entry.mk time) ++ past) = begunIn past ↔ ∀ e ∈ new, e.begins? = none := by
  rw [begunIn, seenIn_append, List.append_right_eq_self]
  simp [seenIn]

/-- A reveal that is in flight was so before the move, unless the move has begun it. -/
theorem Sound.inFlight_before (hw : Sound w) {r : Reveal} (hr : r.InFlight (w.move m)) :
    r.InFlight w ∨ m = .step r.task ∧ begunIn (w.move m).history ≠ begunIn w.history := by
  obtain ⟨b, ht, hb⟩ := hr
  rcases hw.runs_before ht with old | ⟨-, new⟩ | ⟨rfl, b', hb', origin, ready⟩
  · exact .inl ⟨b, old, hb⟩
  · rw [new] at hb
    cases b <;> cases hb
  · have work : b'.isWork = true := by
      cases b <;> first | cases hb | (cases b' <;> first | rfl | cases origin)
    obtain ⟨new, b'', ended, step, history, task⟩ := hw.step_work hb' work ready
    obtain rfl := (Task.mk.inj (Option.some.inj (task.symm.trans ht))).1
    obtain ⟨a, ha, reveals⟩ := Option.bind_eq_some_iff.mp ((reveals?_eq _).symm.trans hb)
    rcases step.reveals ha reveals with ⟨before, -⟩ | ⟨-, opens⟩
    · left
      exact ⟨b', hb', by rw [reveals?_eq, before]; rfl⟩
    obtain ⟨e, he, begins⟩ := opens.begins
    right
    refine ⟨rfl, fun same => begins ?_⟩
    change begunIn (w.step r.task).history = _ at same
    rw [history, begunIn_mapped] at same
    exact same e he

/-- While no reveal is in flight, nothing is shown or highlighted. -/
theorem Sound.move_silent (hw : Sound w) (none : ∀ r : Reveal, ¬r.InFlight w) (m : Move) :
    ∃ new, (w.move m).history = new ++ w.history ∧ ∀ e ∈ new, e.event.shows = false := by
  rcases move_aside w m with ⟨new, hn, aside⟩ | ⟨t, b, rfl, ht, work, ready⟩
  · exact ⟨new, hn, fun e he => shows_of_isAside (aside e he)⟩
  · obtain ⟨new, b', ended, step, history, -⟩ := hw.step_work ht work ready
    refine ⟨_, history, List.forall_mem_map.mpr (step.silent ?_)⟩
    cases hb : b.reveals? with
    | none => rfl
    | some reveal => exact absurd ⟨b, ht, hb⟩ (none ⟨t, reveal.1, reveal.2⟩)

theorem Sound.begunIn_grows (hw : Sound w) (more : List Move) :
    begunIn w.history <+: begunIn (w.run more).history := by
  obtain ⟨new, hn⟩ := hw.run_suffix more
  rw [← hn, begunIn, seenIn_append]
  exact List.prefix_append _ _

theorem Sound.begunIn_parts (hw : Sound w) (moves more : List Move)
    (calm : begunIn ((w.run moves).run more).history = begunIn w.history) :
    begunIn (w.run moves).history = begunIn w.history ∧
      begunIn ((w.run moves).run more).history = begunIn (w.run moves).history := by
  have rest := (hw.run moves).begunIn_grows more
  rw [calm] at rest
  have same := rest.eq_of_length_le (hw.begunIn_grows moves).length_le
  exact ⟨same, calm.trans same.symm⟩

theorem Sound.inFlight_run (hw : Sound w) {more : List Move}
    (calm : begunIn (w.run more).history = begunIn w.history) {r : Reveal}
    (hr : r.InFlight (w.run more)) : r.InFlight w := by
  induction more generalizing w with
  | nil => exact hr
  | cons m more ih =>
    obtain ⟨first, rest⟩ := hw.begunIn_parts [m] more calm
    rcases hw.inFlight_before (ih (hw.move m) rest hr) with before | ⟨-, begun⟩
    · exact before
    · exact absurd first begun

theorem Sound.run_silent (hw : Sound w) (none : ∀ r : Reveal, ¬r.InFlight w) {more : List Move}
    (calm : begunIn (w.run more).history = begunIn w.history) :
    ∃ new, (w.run more).history = new ++ w.history ∧ ∀ e ∈ new, e.event.shows = false := by
  induction more generalizing w with
  | nil => exact ⟨[], rfl, by simp⟩
  | cons m more ih =>
    obtain ⟨first, rest⟩ := hw.begunIn_parts [m] more calm
    have still (r : Reveal) (hr : r.InFlight (w.move m)) : False := by
      rcases hw.inFlight_before hr with before | ⟨-, begun⟩
      · exact none r before
      · exact begun first
    obtain ⟨new, hn, quiet⟩ := hw.move_silent none m
    obtain ⟨new', hn', quiet'⟩ := ih (hw.move m) still rest
    refine ⟨new' ++ new, ?_, fun e he => ?_⟩
    · show ((w.move m).run more).history = _
      rw [hn', hn, List.append_assoc]
    · rcases List.mem_append.mp he with he | he
      · exact quiet' e he
      · exact quiet e he

theorem lastReveal?_silent {new past : List Entry} (quiet : ∀ e ∈ new, e.event.shows = false) :
    lastReveal? (new ++ past) = lastReveal? past :=
  findSome?_append_of_blind fun e he => by simpa using (Bool.or_eq_false_iff.mp (quiet e he)).2

theorem lastShown?_silent {new past : List Entry} (quiet : ∀ e ∈ new, e.event.shows = false) :
    lastShown? (new ++ past) = lastShown? past :=
  findSome?_append_of_blind fun e he => by simpa using (Bool.or_eq_false_iff.mp (quiet e he)).1

/-- The step with which a reveal succeeds. -/
structure Reveal.EndsWith (r : Reveal) (h : Highlight) (w w' : Workspace) : Prop where
  recorded : ⟨w.now, .highlighted h r.settings r.location⟩ ∈ w'.history
  through : ¬r.InFlight w'
  fresh : h = w.nextHighlight r.settings r.location
  last : lastReveal? w'.history = some (h, r.location)
  shown : lastShown? w'.history = some (r.location.uri, r.settings.column, true)

theorem highlighted_of_append {new past : List Entry}
    (eq : highlightsIn (new ++ past) = highlightsIn past ++ [(h, s, l)]) :
    ∃ e ∈ new, e.event = .highlighted h s l := by
  rw [highlightsIn, seenIn_append, List.append_cancel_left_eq] at eq
  have mem : (h, s, l) ∈ seenIn Event.highlights? new := eq ▸ List.mem_singleton_self _
  obtain ⟨e, he, same⟩ := List.mem_filterMap.mp (List.mem_reverse.mp mem)
  refine ⟨e, he, ?_⟩
  unfold Event.highlights? at same
  split at same
  · next event =>
    cases same
    exact event
  · cases same

theorem Sound.highlights_ends (hw : Sound w) {r : Reveal} (hr : r.Highlights h w) :
    r.EndsWith h w (w.step r.task) := by
  rcases step_aside w r.task with ⟨new, hn, aside⟩ | ⟨b, ht, work, ready⟩
  · rw [Reveal.Highlights, hn] at hr
    obtain ⟨e, he, event⟩ := highlighted_of_append hr
    have aside := aside e he
    rw [event] at aside
    cases aside
  obtain ⟨new, b', ended, step, history, task⟩ := hw.step_work ht work ready
  rw [Reveal.Highlights, history] at hr
  obtain ⟨entry, mem, event⟩ := highlighted_of_append hr
  obtain ⟨e, he, rfl⟩ := List.mem_map.mp mem
  obtain rfl : e = .highlighted h r.settings r.location := event
  have recorded := history ▸ List.mem_append_left w.history mem
  obtain ⟨fresh, done, after, telling, split⟩ := step.of_highlighted he
  have quiet : ∀ e ∈ after.map (Entry.mk w.now), e.event.shows = false :=
    List.forall_mem_map.mpr fun e he => shows_of_isTelling (telling e he)
  rw [split, List.map_append, List.append_assoc] at history
  constructor
  case recorded => exact recorded
  case through =>
    rintro ⟨b'', ht', reveals⟩
    obtain rfl := (Task.mk.inj (Option.some.inj (task.symm.trans ht'))).1
    rw [done] at reveals
    cases reveals
  case fresh => exact fresh
  case last =>
    rw [history, lastReveal?_silent quiet, fresh]
    rfl
  case shown =>
    -- Nothing that a highlight records is a document that is shown, so the last one is that before it.
    have painting : ∀ e ∈ (w.highlightEvents r.settings r.location).map (Entry.mk w.now),
        e.event.shown? = none := by
      refine List.forall_mem_map.mpr fun e hm => ?_
      simp only [highlightEvents, clearing, List.mem_cons, List.mem_append, Option.mem_toList,
        Option.map_eq_some_iff, List.not_mem_nil, or_false] at hm
      rcases hm with rfl | rfl | ⟨x, -, rfl⟩ | rfl | rfl <;> rfl
    rw [history, lastShown?_silent quiet, List.map_append, List.append_assoc, lastShown?,
      findSome?_append_of_blind painting]
    rfl

/-- The retraction of a reveal that succeeds is under way from then on. -/
theorem Lit.retraction_runs (hl : Lit w) (hw : Sound w)
    (fresh : Function.Injective w.conduct.decorationOf) {r : Reveal} (hr : r.Highlights h w) :
    ∃ t, (w.step r.task).runs t (.retraction h (w.now + r.settings.duration.toNat)) := by
  have ends := hw.highlights_ends hr
  have next := hw.move (.step r.task)
  have lit : Lit (w.step r.task) := hl.run hw fresh [.step r.task]
  obtain ⟨t, ht⟩ := lit.own _ ends.recorded h _ _ rfl
  obtain ⟨x, hx, origin⟩ : ∃ x, (w.step r.task).tasks[t]? = some x ∧
      x.activity.origin = .retraction h (w.now + r.settings.duration.toNat) := by
    simpa [spawned] using ht
  refine ⟨t, ?_⟩
  rcases hw.task_before (m := .step r.task) hx with ⟨y, hy, same⟩ | ⟨-, new, running⟩
  · -- The number of the decoration was not given before.
    have old := spawned_of_task hy
    rw [same, origin, ends.fresh] at old
    exact absurd old (hl.unspawned fresh _ _)
  · have activity := new.trans origin
    obtain ⟨b, aborted, ended⟩ := x
    obtain rfl : b = _ := activity
    obtain rfl : ended = false := running
    obtain rfl : aborted = false := next.not_aborted hx rfl
    exact hx

/-- A reveal that succeeds while no other one is in flight has the highlight and the pane until its
highlight is to be retracted, if none is started meanwhile. -/
theorem Lit.prevails (hl : Lit w) (hw : Sound w) (fresh : Function.Injective w.conduct.decorationOf)
    {r : Reveal} (hr : r.Highlights h w) (alone : ∀ q : Reveal, q.InFlight w → q = r)
    {more : List Move}
    (calm : begunIn ((w.step r.task).run more).history = begunIn w.history)
    (undue : ((w.step r.task).run more).now < w.now + r.settings.duration.toNat) :
    r.Prevails h ((w.step r.task).run more) := by
  have ends := hw.highlights_ends hr
  obtain ⟨t, ht⟩ := hl.retraction_runs hw fresh hr
  obtain ⟨first, rest⟩ := hw.begunIn_parts [.step r.task] more calm
  have next : Sound (w.step r.task) := hw.move (.step r.task)
  -- No reveal is in flight after the last one, and none begins, so nothing more is shown or painted.
  have none (q : Reveal) (hq : q.InFlight (w.step r.task)) : False := by
    rcases hw.inFlight_before (m := .step r.task) hq with before | ⟨-, begun⟩
    · exact ends.through (alone q before ▸ hq)
    · exact begun first
  obtain ⟨new, hn, quiet⟩ := next.run_silent none rest
  have last : lastReveal? ((w.step r.task).run more).history = some (h, r.location) := by
    rw [hn, lastReveal?_silent quiet, ends.last]
  have lit : Lit ((w.step r.task).run more) := hl.run hw fresh (.step r.task :: more)
  have pending : ((w.step r.task).run more).isPending h := by
    rcases next.retracts_run (.inl ht) List.suffix_rfl more with still | ⟨-, _, time, le, before, -⟩
    · exact ⟨t, _, still⟩
    · omega
  have active := (lit.active h).mpr ⟨⟨_, last⟩, pending⟩
  constructor
  case active => exact active
  case painted => exact lit.range h _ active last
  case only =>
    intro h' painted
    exact Option.some.inj ((lit.painted h' painted).symm.trans active)
  case pane => rw [hn, lastShown?_silent quiet, ends.shown]

theorem Overlaps.among {first second : Reveal} (h : Overlaps w m first second) (hw : Sound w)
    {r : Reveal} (hr : r.InFlight (w.move m)) : r.InFlight w ∨ r = second := by
  rcases hw.inFlight_before hr with before | ⟨own, -⟩
  · exact .inl before
  rcases hw.inFlight_before h.begun with before | ⟨own', -⟩
  · exact absurd before h.begins
  · -- One step starts one reveal.
    right
    obtain ⟨b, ht, hb⟩ := hr
    obtain ⟨b', ht', hb'⟩ := h.begun
    have same : r.task = second.task := Move.step.inj (own.symm.trans own')
    rw [← same] at ht'
    obtain rfl := (Task.mk.inj (Option.some.inj (ht.symm.trans ht'))).1
    obtain ⟨settings, location⟩ := Prod.mk.inj (Option.some.inj (hb.symm.trans hb'))
    exact Reveal.ext same settings location

/-- When one of two reveals that overlap is through, and so are those that were in flight before, the other
one is alone. -/
theorem Overlaps.alone {first second last other : Reveal} (h : Overlaps w m first second) (hw : Sound w)
    (either : last = first ∧ other = second ∨ last = second ∧ other = first) {between : List Move}
    (calm : begunIn ((w.move m).run between).history = begunIn (w.move m).history)
    (through : ¬other.InFlight ((w.move m).run between))
    (earlier : ∀ r : Reveal, r.InFlight w → r.InFlight ((w.move m).run between) → r = first)
    {q : Reveal} (hq : q.InFlight ((w.move m).run between)) : q = last := by
  have pair : q = first ∨ q = second := by
    rcases h.among hw ((hw.move m).inFlight_run calm hq) with before | rfl
    · exact .inl (earlier q before hq)
    · exact .inr rfl
  have ne : q ≠ other := by
    rintro rfl
    exact through hq
  rcases either with ⟨rfl, rfl⟩ | ⟨rfl, rfl⟩
  · exact pair.resolve_right ne
  · exact pair.resolve_left ne

/-- Of two reveals that overlap the one that ends last has the highlight and the pane until its
highlight is to be retracted, whichever was started first and whatever became of the other one. -/
theorem overlap_lastPrevails (settings : Settings) (visible : List Url) (symbols : List Symbol)
    (conduct : Conduct) (fresh : Function.Injective conduct.decorationOf)
    {moves between after : List Move} {m : Move} {first second last other : Reveal} {h : Highlight}
    {w u x : Workspace} (hw : w = (Workspace.new settings visible symbols conduct).run moves)
    (hu : u = (w.move m).run between) (hx : x = (u.step last.task).run after)
    (overlaps : Overlaps w m first second)
    (either : last = first ∧ other = second ∨ last = second ∧ other = first)
    (through : ¬other.InFlight u) (earlier : ∀ r : Reveal, r.InFlight w → r.InFlight u → r = first)
    (highlights : last.Highlights h u)
    (calm : begunIn x.history = begunIn (w.move m).history)
    (undue : x.now < u.now + last.settings.duration.toNat) : last.Prevails h x := by
  have start := Sound.new settings visible symbols conduct
  have sound : Sound w := hw ▸ start.run moves
  have named : u = (Workspace.new settings visible symbols conduct).run (moves ++ m :: between) := by
    rw [hu, hw]
    simp [Workspace.run]
  have lit : Lit u := named ▸ (Lit.new settings visible symbols conduct).run start fresh _
  have freshU : Function.Injective u.conduct.decorationOf := by
    have kept := start.keeps_run (P := fun v => v.conduct.decorationOf = conduct.decorationOf) rfl
      (fun _ hp hc => hc.decorationOf_eq.trans hp) (moves ++ m :: between)
    rw [named, kept]
    exact fresh
  subst hx hu
  obtain ⟨before, rest⟩ := (sound.move m).begunIn_parts between (.step last.task :: after) calm
  exact lit.prevails ((sound.move m).run between) freshU highlights
    (fun q hq => overlaps.alone sound either before through earlier hq) rest undue

/-- The first of two reveals waits for its document, the second one is asked for. -/
def slower (l l' : Location) : List Move :=
  [.setLatency .openDocument 100, .request (.reveal l) none, .step 1, .setLatency .openDocument 0,
    .request (.reveal l') none]

/-- The second reveal ends last, and prevails. -/
theorem second_lastPrevails :
    let first : Reveal := ⟨1, .default, ⟨⟨"file:///first.rs", by decide +kernel⟩, ⟨⟨1, 0⟩, ⟨1, 4⟩⟩⟩⟩
    let second : Reveal := ⟨2, .default, ⟨⟨"file:///second.rs", by decide +kernel⟩, ⟨⟨2, 0⟩, ⟨2, 4⟩⟩⟩⟩
    let w := (Workspace.new .default [] [] (.prompt false false)).run
      (slower first.location second.location)
    let u := (w.move (.step 2)).run [.wait 100, .step 1, .step 1, .step 2]
    Overlaps w (.step 2) first second ∧ ¬first.InFlight u ∧ second.Highlights ⟨1, 2⟩ u ∧
      second.Prevails ⟨1, 2⟩ ((u.step 2).run [.wait 999]) := by
  intro first second w u
  have overlaps : Overlaps w (.step 2) first second :=
    ⟨by decide +kernel, by decide +kernel, by decide +kernel⟩
  have through : ¬first.InFlight u := by decide +kernel
  have highlights : second.Highlights ⟨1, 2⟩ u := by decide +kernel
  have tasks : w.tasks.map Task.reveals? =
      [none, some (first.settings, first.location), none] := by decide +kernel
  have earlier (r : Reveal) (hr : r.InFlight w) (_ : r.InFlight u) : r = first := by
    obtain ⟨t, settings, location⟩ := r
    have entry : (w.tasks.map Task.reveals?)[t]? = some (some (settings, location)) := by
      obtain ⟨x, hx, reveals⟩ := Option.bind_eq_some_iff.mp (Reveal.inFlight_iff.mp hr)
      rw [List.getElem?_map, hx, Option.map_some, reveals]
    rw [tasks] at entry
    rcases t with _ | _ | _ | t <;> cases entry
    rfl
  exact ⟨overlaps, through, highlights, overlap_lastPrevails _ _ _ _ (fun _ _ h => h) rfl rfl rfl overlaps
    (.inr ⟨rfl, rfl⟩) through earlier highlights (by decide +kernel) (by decide +kernel)⟩

/-- The first reveal ends last, and takes the highlight and the pane from the second one, the retraction
of which is not due yet. -/
theorem first_prevails :
    let first : Reveal := ⟨1, .default, ⟨⟨"file:///first.rs", by decide +kernel⟩, ⟨⟨1, 0⟩, ⟨1, 4⟩⟩⟩⟩
    let second : Reveal := ⟨2, .default, ⟨⟨"file:///second.rs", by decide +kernel⟩, ⟨⟨2, 0⟩, ⟨2, 4⟩⟩⟩⟩
    let w := (Workspace.new .default [] [] (.prompt false false)).run
      (slower first.location second.location)
    let v := (w.move (.step 2)).run [.step 2]
    let u := (v.step 2).run [.wait 100, .step 1]
    let x := u.step 1
    Overlaps w (.step 2) first second ∧ second.Highlights ⟨1, 1⟩ v ∧ first.Highlights ⟨1, 2⟩ u ∧
      begunIn x.history = begunIn (w.move (.step 2)).history ∧
      x.now < v.now + second.settings.duration.toNat ∧
      x.revealer.active = some ⟨1, 2⟩ ∧ paintedIn x.history ⟨1, 1⟩ = [] ∧
      lastShown? x.history = some (first.location.uri, 1, true) ∧ ∀ h, ¬second.Prevails h x := by
  intro first second w v u x
  have shown : lastShown? x.history = some (first.location.uri, 1, true) := by decide +kernel
  refine ⟨⟨by decide +kernel, by decide +kernel, by decide +kernel⟩, by decide +kernel,
    by decide +kernel, by decide +kernel, by decide +kernel, by decide +kernel, by decide +kernel, shown,
    fun h hp => ?_⟩
  have same : some (first.location.uri, (1 : UInt32), true) = some (second.location.uri, 1, true) :=
    shown.symm.trans hp.pane
  revert same
  decide +kernel

end DiagramLinks
