import DiagramLinks.Proofs.Overlap

namespace DiagramLinks

open Workspace

variable {a : Await} {authors : List Author} {w u : Workspace} {t : TaskNo} {m : Move} {r : Reveal}
  {h : Highlight} {s : Settings} {l : Location} {before after more : List Move}

/-- The same highlight is active, the same ranges are painted, and the same retractions are under way. -/
structure SameHighlights (w u : Workspace) : Prop where
  active : u.revealer.active = w.revealer.active
  painted : ∀ h, paintedIn u.history h = paintedIn w.history h
  pending : ∀ t h due, u.runs t (.retraction h due) ↔ w.runs t (.retraction h due)

theorem SameHighlights.refl : SameHighlights w w := ⟨rfl, fun _ => rfl, fun _ _ _ => Iff.rfl⟩

theorem SameHighlights.trans {v : Workspace} (h : SameHighlights w u) (h' : SameHighlights u v) :
    SameHighlights w v where
  active := h'.active.trans h.active
  painted k := (h'.painted k).trans (h.painted k)
  pending t k due := (h'.pending t k due).trans (h.pending t k due)

theorem Sound.sameHighlights {b : Author} (hw : Sound w) (hc : Change b w u) (hb : b ≠ .reveal)
    (hb' : b ≠ .retraction) : SameHighlights w u := by
  obtain ⟨new, hn, quiet⟩ := hc.quiet_history hb hb'
  constructor
  case active => exact (hc.revealer_eq hb hb').1
  case painted =>
    intro h
    rw [hn, paintedIn_append quiet]
  case pending => exact fun t h due => hw.retraction_iff hc hb hb'

/-- Without a retraction among the authors, highlights change only when a reveal paints one. -/
theorem Sound.sameHighlights_of_quiet (hw : Sound w) (hc : Chain authors w u)
    (no : .retraction ∉ authors) {new : List Entry} (hn : u.history = new ++ w.history)
    (quiet : ∀ e ∈ new, e.event.kind ≠ .decoration) : SameHighlights w u := by
  have kept := hc.keeps (P := fun v => Sound v ∧ ∃ more, v.history = more ++ w.history ∧
    (SameHighlights w v ∨ ∃ e ∈ more, e.event.kind = .decoration)) ⟨hw, [], rfl, .inl .refl⟩ ?_
  · obtain ⟨-, more, hm, same | ⟨e, he, kind⟩⟩ := kept
    · exact same
    · obtain rfl : more = new := List.append_cancel_right (hm.symm.trans hn)
      exact absurd kind (quiet e he)
  · rintro b hb v v' ⟨sound, more, hm, painted⟩ hc
    obtain ⟨added, ha, -⟩ := hc.history_eq
    refine ⟨sound.change hc, added ++ more, by rw [ha, hm, List.append_assoc], ?_⟩
    rcases painted with same | ⟨e, he, kind⟩
    · by_cases reveal : b = .reveal
      · subst reveal
        cases hc with
        | highlight s l =>
          right
          rw [highlight_eq] at ha
          obtain rfl := List.append_cancel_right ha
          exact ⟨⟨v.now, .highlighted _ s l⟩, List.mem_append_left more List.mem_cons_self, rfl⟩
      · left
        apply same.trans
        exact sound.sameHighlights hc reveal fun retraction => no (retraction ▸ hb)
    · exact .inr ⟨e, List.mem_append_right added he, kind⟩

theorem kind_of_isTelling {e : Event} (telling : e.isTelling = true) : e.kind ≠ .decoration := by
  unfold Event.isTelling at telling
  split at telling <;> simp_all [Event.kind]

theorem kind_of_isPreparation {e : Event} (preparation : e.isPreparation = true) :
    e.kind ≠ .decoration := by
  unfold Event.isPreparation at preparation
  split at preparation <;> simp_all [Event.kind]

def Task.await? (x : Task) : Option Await :=
  if x.ended then none else x.activity.await?

namespace Reveal

/-- The call that a reveal begins with. -/
def opening (r : Reveal) : Await := .opening r.settings r.location

/-- The call that follows when the document is open. -/
def showing (r : Reveal) : Await := .showing r.settings r.location

def RestsIn (r : Reveal) (a : Await) (w : Workspace) : Prop :=
  w.tasks[r.task]?.bind Task.await? = some a

instance (r : Reveal) (a : Await) (w : Workspace) : Decidable (r.RestsIn a w) :=
  inferInstanceAs (Decidable (_ = _))

/-- A reveal has begun and is neither through nor dropped. -/
def Underway (r : Reveal) (w : Workspace) : Prop :=
  r.RestsIn r.opening w ∨ r.RestsIn r.showing w

instance (r : Reveal) (w : Workspace) : Decidable (r.Underway w) :=
  inferInstanceAs (Decidable (_ ∨ _))

/-- The task of a reveal is to be dropped. -/
def IsAborted (r : Reveal) (w : Workspace) : Prop :=
  ∃ x, w.tasks[r.task]? = some x ∧ x.aborted = true

/-- A reveal begins with a move. -/
structure Begins (r : Reveal) (w : Workspace) (m : Move) : Prop where
  before : ¬r.Underway w
  after : r.Underway (w.move m)

/-- A reveal is under way all through a run. -/
def Lasts (r : Reveal) (w : Workspace) : List Move → Prop
  | [] => r.Underway w
  | m :: more => r.Underway w ∧ r.Lasts (w.move m) more

end Reveal

def Event.call? : Event → Option Call
  | .called (.showError _) => none
  | .called c => some c
  | _ => none

/-- What became of an event or a request. -/
def Event.outcome? : Event → Option (Except Problem Unit)
  | .handled _ result => some result
  | .finished _ _ result => some result
  | _ => none

/-- What a task records in a move, the latest first. -/
def Workspace.recordedBy (w : Workspace) (t : TaskNo) : Move → List Entry
  | .step s =>
    if s = t then (w.step t).history.take ((w.step t).history.length - w.history.length) else []
  | _ => []

namespace Reveal

/-- What the task of a reveal records in a run until the reveal is over. -/
def recordsIn (r : Reveal) (w : Workspace) : List Move → List Entry
  | [] => []
  | m :: more => if r.Underway w then r.recordsIn (w.move m) more ++ w.recordedBy r.task m else []

/-- All that is recorded by a reveal that begins with a move. -/
def records (r : Reveal) (w : Workspace) (m : Move) (more : List Move) : List Entry :=
  r.recordsIn (w.move m) more ++ w.recordedBy r.task m

/-- The host calls of a reveal, the earliest first. -/
def calls (r : Reveal) (w : Workspace) (m : Move) (more : List Move) : List Call :=
  seenIn Event.call? (r.records w m more)

def outcomes (r : Reveal) (w : Workspace) (m : Move) (more : List Move) : List (Except Problem Unit) :=
  seenIn Event.outcome? (r.records w m more)

/-- The calls of a reveal whose document is shown. -/
def painting (r : Reveal) (new : Highlight) (previous : Option Highlight) : List Call :=
  [.revealRange new.editor r.location.revealRange, .createDecoration new.decoration r.settings.color] ++
    (previous.map fun h => .paint h.editor h.decoration []).toList ++
    [.paint new.editor new.decoration [r.location.revealRange]]

/-- All calls of a reveal, in their order: `new` is its highlight, in place of the previous one. -/
def script (r : Reveal) (new : Highlight) (previous : Option Highlight) : List Call :=
  .openDocument r.location.uri :: .showDocument r.location.uri r.settings.column true ::
    r.painting new previous

/-- The calls of a reveal up to one that it rests in. -/
inductive Reached (r : Reveal) : Await → List Call → Prop
  | opening : Reached r r.opening [.openDocument r.location.uri]
  | showing : Reached r r.showing
      [.openDocument r.location.uri, .showDocument r.location.uri r.settings.column true]

/-- A reveal that began in `w` with the move `m` has succeeded with the step of its task in `u`, and `new` is
its highlight. -/
structure Paints (r : Reveal) (w : Workspace) (m : Move) (more : List Move) (u : Workspace)
    (new : Highlight) : Prop where
  calls : r.calls w m more = r.script new u.revealer.active
  outcomes : r.outcomes w m more = [.ok ()]
  active : (u.step r.task).revealer.active = some new
  painted : paintedIn (u.step r.task).history new = [r.location.revealRange]
  retracts : ∃ t : TaskNo, u.tasks[t]? = none ∧
    (u.step r.task).runs t (.retraction new (u.now + r.settings.duration.toNat))

/-- What holds of a reveal that begins in `w` with the move `m`. -/
structure AllOrNothing (r : Reveal) (w : Workspace) (m : Move) : Prop where
  /-- Its settings are those of the moment it begins. -/
  configured : r.settings = w.revealer.settings
  /-- The range that is scrolled to and painted. -/
  range : r.location.revealRange = ⟨r.location.range.start,
    if r.location.range.start.line < r.location.range.stop.line ∨
        r.location.range.start.line = r.location.range.stop.line ∧
          r.location.range.start.column < r.location.range.stop.column
    then r.location.range.stop else r.location.range.start⟩
  ordered : ∀ more, ∃ new previous, r.calls w m more <+: r.script new previous
  /-- All calls are made just when the reveal succeeds. -/
  complete : ∀ more, (∃ new previous, r.calls w m more = r.script new previous) ↔
    r.outcomes w m more = [.ok ()]
  /-- While it is under way, the last of its calls is the one it rests in. -/
  waits : ∀ more, r.Lasts (w.move m) more → ∃ a, r.RestsIn a ((w.move m).run more) ∧
    r.Reached a (r.calls w m more) ∧ r.outcomes w m more = []
  /-- Nothing but a step of its own task ends it. -/
  ends : ∀ more, ¬r.Lasts (w.move m) more → ∃ before after, more = before ++ .step r.task :: after ∧
    r.Lasts (w.move m) before ∧ ¬r.Underway (((w.move m).run before).step r.task)
  /-- Where a host fails, the call is the last one, and the failure is that of the reveal. -/
  fails : ∀ before after a u p, u = (w.move m).run before → r.Lasts (w.move m) before →
    r.RestsIn a u → ¬r.IsAborted u → u.isReady r.task = true → (u.answer a).2 = .over (.error p) →
      r.Reached a (r.calls w m (before ++ .step r.task :: after)) ∧
        r.outcomes w m (before ++ .step r.task :: after) = [.error p]
  /-- Where its task is dropped, the call is the last one. -/
  dropped : ∀ before after a u, u = (w.move m).run before → r.Lasts (w.move m) before →
    r.RestsIn a u → r.IsAborted u →
      r.Reached a (r.calls w m (before ++ .step r.task :: after)) ∧
        r.outcomes w m (before ++ .step r.task :: after) = []
  /-- Once the document is shown, the same step clears what was active, paints, and schedules the
  retraction. -/
  shows : ∀ before after u, u = (w.move m).run before → r.Lasts (w.move m) before →
    r.RestsIn r.showing u → ¬r.IsAborted u → u.isReady r.task = true →
    (u.answer r.showing).2 = .over (.ok ()) →
      ∃ new, r.Paints w m (before ++ .step r.task :: after) u new
  /-- It succeeds in no other way. -/
  succeeds : ∀ more, r.outcomes w m more = [.ok ()] → ∃ before after u new,
    more = before ++ .step r.task :: after ∧ u = (w.move m).run before ∧ r.Lasts (w.move m) before ∧
      r.RestsIn r.showing u ∧ r.Paints w m more u new
  /-- Its other steps leave all highlights as they are. -/
  untouched : SameHighlights w (w.move m) ∧ ∀ before u, u = (w.move m).run before →
    r.Lasts (w.move m) before → .ok () ∉ r.outcomes w m (before ++ [.step r.task]) →
      SameHighlights u (u.step r.task)

variable {b : Activity}

theorem restsIn_iff : r.RestsIn a w ↔
    ∃ b aborted, w.tasks[r.task]? = some ⟨b, aborted, false⟩ ∧ b.await? = some a := by
  constructor
  · intro h
    obtain ⟨⟨b, aborted, ended⟩, hx, ha⟩ := Option.bind_eq_some_iff.mp h
    cases ended with
    | true => cases ha
    | false => exact ⟨b, aborted, hx, ha⟩
  · rintro ⟨b, aborted, hx, ha⟩
    simpa [RestsIn, hx, Task.await?] using ha

theorem isWork_origin (b : Activity) : b.origin.isWork = b.isWork := by
  cases b <;> rfl

theorem isWork_of_await (ha : b.await? = some a) : b.isWork = true := by
  cases b <;> first | rfl | cases ha

theorem RestsIn.move (h : r.RestsIn a w) (hw : Sound w) (other : m ≠ .step r.task) :
    r.RestsIn a (w.move m) := by
  obtain ⟨b, aborted, hx, ha⟩ := restsIn_iff.mp h
  obtain ⟨aborted', hx'⟩ := hw.move_spares other _ hx
  exact restsIn_iff.mpr ⟨b, aborted', hx', ha⟩

theorem not_underway {x : Task} (hx : w.tasks[r.task]? = some x) (none : x.await? = none) :
    ¬r.Underway w := by
  simp [Underway, RestsIn, hx, none]

theorem Underway.move (h : r.Underway w) (hw : Sound w) (other : m ≠ .step r.task) :
    r.Underway (w.move m) :=
  h.imp (·.move hw other) (·.move hw other)

theorem Lasts.start (h : r.Lasts w more) : r.Underway w := by
  cases more with
  | nil => exact h
  | cons m more => exact h.1

theorem lasts_append : r.Lasts w (before ++ more) ↔ r.Lasts w before ∧ r.Lasts (w.run before) more := by
  induction before generalizing w with
  | nil => exact ⟨fun lasts => ⟨lasts.start, lasts⟩, fun lasts => lasts.2⟩
  | cons m before ih =>
    show _ ∧ r.Lasts (w.move m) (before ++ more) ↔ (_ ∧ r.Lasts (w.move m) before) ∧ _
    rw [ih, and_assoc]
    rfl

theorem Lasts.underway (h : r.Lasts w more) : r.Underway (w.run more) := by
  have split : r.Lasts w (more ++ []) ↔ _ ∧ r.Lasts (w.run more) [] := lasts_append
  rw [List.append_nil] at split
  exact (split.mp h).2

theorem recordedBy_step {new : List Entry} (h : (w.step t).history = new ++ w.history) :
    w.recordedBy t (.step t) = new := by
  simp [recordedBy, h]

theorem recordedBy_other (other : m ≠ .step t) : w.recordedBy t m = [] := by
  unfold recordedBy
  split
  · next s =>
    rw [if_neg]
    rintro rfl
    exact other rfl
  · rfl

/-- What a step of its task does to a reveal that rests in a call, and the entries it records. -/
inductive Step (r : Reveal) (w : Workspace) : Await → List Entry → Prop
  | idles {a : Await} (unready : w.isReady r.task = false) : Step r w a []
  | drops {a : Await} (aborted : r.IsAborted w) (gone : ¬r.Underway (w.step r.task))
      (same : SameHighlights w (w.step r.task)) : Step r w a []
  | fails {a : Await} {p new} (going : ¬r.IsAborted w) (answer : (w.answer a).2 = .over (.error p))
      (calls : seenIn Event.call? new = []) (outcomes : seenIn Event.outcome? new = [.error p])
      (gone : ¬r.Underway (w.step r.task)) (same : SameHighlights w (w.step r.task)) : Step r w a new
  | opens {q new} (going : ¬r.IsAborted w) (answer : (w.answer r.opening).2 = .waiting q)
      (calls : seenIn Event.call? new = [r.showing.call]) (outcomes : seenIn Event.outcome? new = [])
      (rests : r.RestsIn r.showing (w.step r.task)) (same : SameHighlights w (w.step r.task)) :
      Step r w r.opening new
  | shows {new} (going : ¬r.IsAborted w) (answer : (w.answer r.showing).2 = .over (.ok ()))
      (calls : seenIn Event.call? new =
        r.painting (w.nextHighlight r.settings r.location) w.revealer.active)
      (outcomes : seenIn Event.outcome? new = [.ok ()]) (gone : ¬r.Underway (w.step r.task))
      (same : SameHighlights ((w.record (.carriedOut r.showing.call)).highlight r.settings r.location)
        (w.step r.task)) :
      Step r w r.showing new

end Reveal

namespace Progress

/-- The call that an activity rests in when it goes on. -/
def await? : Progress → Option Await
  | .waiting q => some q.await
  | .over _ => none

def outcome? : Progress → Option (Except Problem Unit)
  | .waiting _ => none
  | .over result => some result

end Progress

theorem outcome?_reports {d : DiagramNo} (p : Progress) :
    (w.reports d p).filterMap Event.outcome? = p.outcome?.toList := by
  match p with
  | .waiting q => rfl
  | .over (.ok ()) => rfl
  | .over (.error p) =>
    unfold reports
    cases w.diagrams[d]? <;> rfl

theorem outcome?_concludes (r : Request) (tag : Option String) (p : Progress) :
    (r.concludes tag p).filterMap Event.outcome? = p.outcome?.toList := by
  match p with
  | .waiting q => rfl
  | .over result =>
    have told : (r.tells result).filterMap Event.outcome? = [] := by
      unfold Request.tells
      split <;> rfl
    simp only [Request.concludes, List.filterMap_cons, Event.outcome?, told]
    rfl

theorem seenIn_map {α : Type} (f : Event → Option α) (n : Nat) (events : List Event) :
    seenIn f (events.map (Entry.mk n)) = (events.filterMap f).reverse := by
  simp [seenIn, List.filterMap_map]

theorem mem_map_mk {events : List Event} {e : Event} {n k : Nat} :
    ⟨n, e⟩ ∈ events.map (Entry.mk k) ↔ n = k ∧ e ∈ events := by
  simp [eq_comm, and_comm]

theorem call?_of_isTelling {e : Event} (telling : e.isTelling = true) : e.call? = none := by
  unfold Event.isTelling at telling
  split at telling <;> first | rfl | cases telling

/-- A task whose call is answered goes on from the answer: `new` is what it records of that, and with
`telling` it tells how. -/
structure GoesOn (w : Workspace) (t : TaskNo) (a : Await) (new telling : List Event) : Prop where
  answers : Answers w a new (w.answer a).2
  history : (w.step t).history = (telling ++ new).map (Entry.mk w.now) ++ w.history
  rests : (w.step t).tasks[t]?.bind Task.await? = (w.answer a).2.await?
  tells : ∀ e ∈ telling, e.isTelling = true
  outcomes : telling.filterMap Event.outcome? = (w.answer a).2.outcome?.toList
  chain : Chain [.service, .activity, .task] (w.answer a).1 (w.step t)

theorem Sound.step_goes {b : Activity} (hw : Sound w) (ht : w.runs t b) (ha : b.await? = some a)
    (ready : w.isReady t = true) : ∃ new telling, GoesOn w t a new telling := by
  have kept := task_of_chain (answer_chain w a) ht
  cases b with
  | session d token q =>
    cases q with
    | handling bound q =>
      cases ha
      obtain ⟨new, answers, history, task⟩ := step_handling ht ready
      have step : w.step t =
          (w.answer q.await).1.continueSession t d token bound (w.answer q.await).2 := by
        simp [Workspace.step, ht, ready, stepSession]
      refine ⟨new, _, answers, history, ?_, isTelling_of_reports _, outcome?_reports _, ?_⟩
      · rw [task]
        cases (w.answer q.await).2 <;> rfl
      · rw [step]
        exact (continueSession_chain _ kept rfl).mono (by decide)
    | _ => cases ha
  | job r tag q =>
    cases q with
    | waiting q =>
      cases ha
      obtain ⟨new, answers, history, task⟩ := hw.step_waiting ht ready
      have step : w.step t = (w.answer q.await).1.continueJob t r tag (w.answer q.await).2 := by
        simp [Workspace.step, ht, ready, stepJob]
      refine ⟨new, _, answers, history, ?_, isTelling_of_concludes _ _ _, outcome?_concludes _ _ _, ?_⟩
      · rw [task]
        cases (w.answer q.await).2 <;> rfl
      · rw [step]
        refine (continueJob_chain _ kept).mono ?_
        unfold concluding
        split <;> simp
    | _ => cases ha
  | _ => cases ha

namespace GoesOn

variable {new telling : List Event}

theorem calls (h : GoesOn w t a new telling) :
    seenIn Event.call? ((telling ++ new).map (Entry.mk w.now)) =
      (new.filterMap Event.call?).reverse := by
  have none : telling.filterMap Event.call? = [] :=
    List.filterMap_eq_nil_iff.mpr fun e he => call?_of_isTelling (h.tells e he)
  rw [seenIn_map, List.filterMap_append, none, List.nil_append]

theorem results (h : GoesOn w t a new telling) (none : new.filterMap Event.outcome? = []) :
    seenIn Event.outcome? ((telling ++ new).map (Entry.mk w.now)) = (w.answer a).2.outcome?.toList := by
  rw [seenIn_map, List.filterMap_append, none, List.append_nil, h.outcomes]
  cases (w.answer a).2 <;> rfl

end GoesOn

theorem answer_showing (h : (w.answer (.showing s l)).2 = .over (.ok ())) :
    (w.answer (.showing s l)).1 =
      (w.record (.carriedOut (Await.showing s l).call)).highlight s l := by
  unfold answer at h ⊢
  split
  · next refused =>
    rw [if_pos refused] at h
    cases h
  · rfl

/-- A task that was aborted is dropped when it takes a step, and records nothing. -/
theorem step_dropped {b : Activity} (hx : w.tasks[t]? = some ⟨b, true, false⟩) :
    (w.step t).history = w.history ∧ (w.step t).tasks[t]? = some ⟨b, true, true⟩ := by
  have ready : w.isReady t = true := by simp [isReady, hx]
  have step : w.step t = w.drop t b := by simp [Workspace.step, hx, ready]
  rw [step]
  cases b <;> exact ⟨rfl, by simp [drop, finish, modifyDiagram, hx]⟩

/-- While an activity works, highlights change only by what it records. -/
theorem Sound.step_untouched {x : Task} (hw : Sound w) (hx : w.tasks[t]? = some x)
    (work : x.activity.isWork = true) {new : List Event}
    (hn : (w.step t).history = new.map (Entry.mk w.now) ++ w.history)
    (quiet : ∀ e ∈ new, e.kind ≠ .decoration) : SameHighlights w (w.step t) := by
  have no : Author.retraction ∉ w.stepAuthors t := by
    obtain ⟨b, aborted, ended⟩ := x
    cases b with
    | session d token p => simp [stepAuthors, hx, working, answering]
    | job r tag p =>
      simp only [stepAuthors, hx, Option.map_some, jobAuthors]
      split <;> simp [working, answering]
    | _ => cases work
  exact hw.sameHighlights_of_quiet (step_chain w t) no hn (List.forall_mem_map.mpr quiet)

theorem GoesOn.untouched {x : Task} {new telling : List Event} (h : GoesOn w t a new telling)
    (hw : Sound w) (hx : w.tasks[t]? = some x) (work : x.activity.isWork = true)
    (quiet : ∀ e ∈ new, e.kind ≠ .decoration) : SameHighlights w (w.step t) := by
  apply hw.step_untouched hx work h.history
  intro e he
  rcases List.mem_append.mp he with he | he
  · exact kind_of_isTelling (h.tells e he)
  · exact quiet e he

/-- With the answer of a host that shows a document, a step is nothing but a highlight, besides what is
told of it. -/
theorem GoesOn.highlights {telling : List Event} (hw : Sound w)
    (h : GoesOn w t (.showing s l) (w.highlightEvents s l ++ [.carriedOut (Await.showing s l).call]) telling)
    (answer : (w.answer (.showing s l)).2 = .over (.ok ())) :
    SameHighlights ((w.record (.carriedOut (Await.showing s l).call)).highlight s l) (w.step t) := by
  have sound := hw.chain (answer_chain w (.showing s l))
  have chain := h.chain
  rw [answer_showing answer] at sound chain
  refine sound.sameHighlights_of_quiet chain (by decide)
    (?_ : _ = telling.map (Entry.mk w.now) ++ _) ?_
  · rw [h.history, List.map_append, List.append_assoc, List.map_append, List.append_assoc, highlight_eq]
    rfl
  · exact List.forall_mem_map.mpr fun e he => kind_of_isTelling (h.tells e he)

namespace Reveal

theorem calls_highlightEvents :
    ((w.highlightEvents r.settings r.location).filterMap Event.call?).reverse =
      r.painting (w.nextHighlight r.settings r.location) w.revealer.active := by
  unfold highlightEvents clearing painting
  cases w.revealer.active <;> rfl

theorem outcomes_highlightEvents : (w.highlightEvents s l).filterMap Event.outcome? = [] := by
  unfold highlightEvents clearing
  cases w.revealer.active <;> rfl

/-- A reveal whose call is answered stops, asks for its document to be shown, or highlights. -/
theorem answered {x : Task} {new telling : List Event} (go : GoesOn w r.task a new telling)
    (hw : Sound w) (ha : a = r.opening ∨ a = r.showing) (hx : w.tasks[r.task]? = some x)
    (work : x.activity.isWork = true) (going : ¬r.IsAborted w) :
    r.Step w a ((telling ++ new).map (Entry.mk w.now)) := by
  have results := go.results
  have rests := go.rests
  have gone (none : (w.answer a).2.await? = none) : ¬r.Underway (w.step r.task) := by
    simp [Underway, RestsIn, rests, none]
  -- A call that belongs to the reveal has its settings and its location.
  have known {s : Settings} {l : Location} (same : a = .opening s l ∨ a = .showing s l) :
      s = r.settings ∧ l = r.location := by
    rcases same with rfl | rfl <;> rcases ha with ha | ha <;> cases ha <;> exact ⟨rfl, rfl⟩
  have answers := go.answers
  generalize answer : (w.answer a).2 = p at answers results rests gone
  cases answers with
  | fails a p =>
    apply Step.fails going answer
    · exact go.calls
    · exact results rfl
    · exact gone rfl
    · exact go.untouched hw hx work (by simp)
  | opens s l =>
    obtain ⟨rfl, rfl⟩ := known (.inl rfl)
    apply Step.opens going answer
    · exact go.calls
    · exact results rfl
    · exact rests
    · exact go.untouched hw hx work (by simp [Event.kind, Await.call])
  | shows s l =>
    obtain ⟨rfl, rfl⟩ := known (.inr rfl)
    apply Step.shows going answer
    · rw [go.calls, List.filterMap_append, List.reverse_append, calls_highlightEvents]
      exact List.nil_append _
    · apply results
      rw [List.filterMap_append, outcomes_highlightEvents]
      rfl
    · exact gone rfl
    · exact go.highlights hw answer
  | _ => rcases ha with ha | ha <;> cases ha

theorem RestsIn.step (hr : r.RestsIn a w) (hw : Sound w) (ha : a = r.opening ∨ a = r.showing) :
    ∃ new, (w.step r.task).history = new ++ w.history ∧ r.Step w a new := by
  obtain ⟨b, aborted, hx, rests⟩ := restsIn_iff.mp hr
  have work := isWork_of_await rests
  cases aborted with
  | true =>
    obtain ⟨history, dropped⟩ := step_dropped hx
    have none : (w.step r.task).history = ([] : List Event).map (Entry.mk w.now) ++ w.history := history
    have same := hw.step_untouched hx work none (by simp)
    exact ⟨[], history, .drops ⟨_, hx, rfl⟩ (not_underway dropped rfl) same⟩
  | false =>
    have going : ¬r.IsAborted w := by
      rintro ⟨x, hx', aborted⟩
      obtain rfl := Option.some.inj (hx.symm.trans hx')
      cases aborted
    cases ready : w.isReady r.task with
    | false => exact ⟨[], by rw [step_of_unready ready]; rfl, .idles ready⟩
    | true =>
      obtain ⟨new, telling, go⟩ := hw.step_goes hx rests ready
      exact ⟨_, go.history, answered go hw ha hx work going⟩

theorem RestsIn.ready_of_aborted (h : r.RestsIn a w) (aborted : r.IsAborted w) :
    w.isReady r.task = true := by
  obtain ⟨b, flag, hx, -⟩ := restsIn_iff.mp h
  obtain ⟨x, hx', aborted⟩ := aborted
  obtain rfl := Option.some.inj (hx.symm.trans hx')
  obtain rfl : flag = true := aborted
  simp [isReady, hx]

/-- A reveal is over with a step of its task that drops it, or with an answer that leads nowhere else. -/
theorem RestsIn.over (h : r.RestsIn a w) (hw : Sound w) (ha : a = r.opening ∨ a = r.showing)
    (ready : w.isReady r.task = true)
    (ends : r.IsAborted w ∨ ∃ result, (w.answer a).2 = .over result) :
    ¬r.Underway (w.step r.task) := by
  obtain ⟨new, -, step⟩ := h.step hw ha
  cases step with
  | idles unready =>
    rw [ready] at unready
    cases unready
  | drops aborted gone same => exact gone
  | fails going answer made told gone same => exact gone
  | opens going answer made told next same =>
    rcases ends with aborted | ⟨result, gone⟩
    · exact absurd aborted going
    · rw [answer] at gone
      cases gone
  | shows going answer made told gone same => exact gone

theorem reveals?_of (ha : a = r.opening ∨ a = r.showing) :
    a.reveals? = some (r.settings, r.location) := by
  rcases ha with rfl | rfl <;> rfl

theorem Underway.rests (h : r.Underway w) : ∃ a, (a = r.opening ∨ a = r.showing) ∧ r.RestsIn a w :=
  h.elim (fun rests => ⟨_, .inl rfl, rests⟩) fun rests => ⟨_, .inr rfl, rests⟩

theorem RestsIn.underway (h : r.RestsIn a w) (ha : a = r.opening ∨ a = r.showing) :
    r.Underway w := by
  rcases ha with rfl | rfl
  · exact .inl h
  · exact .inr h

theorem Begins.opens (h : r.Begins w m) (hw : Sound w) : m = .step r.task ∧
    r.RestsIn r.opening (w.step r.task) ∧ ∃ x new, w.tasks[r.task]? = some x ∧
      x.activity.isWork = true ∧ Opens w r.settings r.location new ∧
      (w.step r.task).history = new.map (Entry.mk w.now) ++ w.history := by
  obtain ⟨a, ha, rests⟩ := h.after.rests
  obtain ⟨b', aborted, hx, hb⟩ := restsIn_iff.mp rests
  rcases hw.task_before hx with ⟨⟨b, flag, ended⟩, hy, origin⟩ | ⟨-, new, -⟩
  · by_cases own : m = .step r.task
    · subst own
      change (w.step r.task).tasks[r.task]? = _ at hx
      rcases step_cases w r.task with same | ⟨b, dropped, -⟩ | ⟨b, runs, ready⟩
      · rw [same] at hx
        have before : r.RestsIn a w := restsIn_iff.mpr ⟨b', aborted, hx, hb⟩
        exact absurd (before.underway ha) h.before
      · have gone := (step_dropped dropped).2.symm.trans hx
        cases gone
      · obtain ⟨rfl, -⟩ := Task.mk.inj (Option.some.inj (runs.symm.trans hy))
        have work : b.isWork = true := by
          rw [← isWork_origin, origin, isWork_origin]
          exact isWork_of_await hb
        obtain ⟨new, b'', ended', step, history, task⟩ := hw.step_work runs work ready
        obtain ⟨rfl, -⟩ := Task.mk.inj (Option.some.inj (task.symm.trans hx))
        rcases step.reveals hb (reveals?_of ha) with ⟨before, -⟩ | ⟨rfl, opens⟩
        · have before : r.RestsIn r.opening w := restsIn_iff.mpr ⟨b, false, runs, before⟩
          exact absurd (.inl before) h.before
        · exact ⟨rfl, rests, _, new, runs, work, opens, history⟩
    · obtain ⟨flag', still⟩ := hw.move_spares own _ hy
      obtain ⟨rfl, -, rfl⟩ := Task.mk.inj (Option.some.inj (hx.symm.trans still))
      have before : r.RestsIn a w := restsIn_iff.mpr ⟨b', flag, hy, hb⟩
      exact absurd (before.underway ha) h.before
  · -- A task that is new rests in nothing.
    change b' = b'.origin at new
    rw [new] at hb
    cases b' <;> cases hb

/-- How far a reveal has come that began in `w` with the move `m`. -/
structure Phase (r : Reveal) (w : Workspace) (m : Move) (more : List Move) (a : Await) : Prop where
  rests : r.RestsIn a ((w.move m).run more)
  reached : r.Reached a (r.calls w m more)
  silent : r.outcomes w m more = []

theorem Reached.cases {calls : List Call} (h : r.Reached a calls) :
    a = r.opening ∨ a = r.showing := by
  cases h with
  | opening => exact .inl rfl
  | showing => exact .inr rfl

theorem Reached.next {calls : List Call} (h : r.Reached r.opening calls) :
    r.Reached r.showing (calls ++ [r.showing.call]) := by
  cases h with
  | opening => exact .showing

theorem Reached.shown {calls : List Call} (h : r.Reached r.showing calls) (new : Highlight)
    (previous : Option Highlight) : calls ++ r.painting new previous = r.script new previous := by
  cases h with
  | showing => rfl

theorem Reached.prefix_script {calls : List Call} (h : r.Reached a calls) (new : Highlight)
    (previous : Option Highlight) : calls <+: r.script new previous := by
  cases h with
  | opening => exact ⟨_, rfl⟩
  | showing => exact ⟨_, rfl⟩

theorem Reached.ne_script {calls : List Call} (h : r.Reached a calls) (new : Highlight)
    (previous : Option Highlight) : calls ≠ r.script new previous := by
  have length : calls.length < (r.script new previous).length := by
    cases h <;> simp [script, painting]
  intro same
  rw [same] at length
  exact absurd length (Nat.lt_irrefl _)

theorem recordsIn_of_over (h : ¬r.Underway w) : r.recordsIn w more = [] := by
  cases more with
  | nil => rfl
  | cons m more => simp [recordsIn, h]

theorem recordsIn_append (h : r.Lasts w before) :
    r.recordsIn w (before ++ more) = r.recordsIn (w.run before) more ++ r.recordsIn w before := by
  induction before generalizing w with
  | nil => exact (List.append_nil _).symm
  | cons m before ih =>
    obtain ⟨underway, rest⟩ := h
    simp only [List.cons_append, recordsIn, if_pos underway, ih rest, List.append_assoc]
    rfl

theorem records_append (h : r.Lasts (w.move m) before) :
    r.records w m (before ++ more) =
      r.recordsIn ((w.move m).run before) more ++ r.records w m before := by
  rw [records, recordsIn_append h, List.append_assoc]
  rfl

/-- What a step of its task adds to the records of a reveal, when nothing comes after it. -/
theorem seenIn_records {α : Type} (f : Event → Option α) {new : List Entry}
    (lasts : r.Lasts (w.move m) before) (hu : u = (w.move m).run before)
    (history : (u.step r.task).history = new ++ u.history)
    (after : List Move) (last : after = [] ∨ ¬r.Underway (u.step r.task)) :
    seenIn f (r.records w m (before ++ .step r.task :: after)) =
      seenIn f (r.records w m before) ++ seenIn f new := by
  have nothing : r.recordsIn (u.move (.step r.task)) after = [] := by
    rcases last with rfl | gone
    · rfl
    · exact recordsIn_of_over gone
  rw [records_append lasts, ← hu, recordsIn, if_pos (hu ▸ lasts.underway), nothing,
    recordedBy_step history, List.nil_append, seenIn_append]

theorem Begins.starts (h : r.Begins w m) (hw : Sound w) : r.Phase w m [] r.opening := by
  obtain ⟨rfl, rests, x, new, -, -, opens, history⟩ := h.opens hw
  obtain ⟨-, rest, rfl, before⟩ := opens
  have recorded := recordedBy_step history
  have quiet : ∀ e ∈ rest, e.call? = none ∧ e.outcome? = none := by
    intro e he
    have preparation := before e he
    unfold Event.isPreparation at preparation
    split at preparation <;> first | exact ⟨rfl, rfl⟩ | cases preparation
  have calls : rest.filterMap Event.call? = [] :=
    List.filterMap_eq_nil_iff.mpr fun e he => (quiet e he).1
  have outcomes : rest.filterMap Event.outcome? = [] :=
    List.filterMap_eq_nil_iff.mpr fun e he => (quiet e he).2
  refine ⟨rests, ?_, ?_⟩
  · have first : r.calls w (.step r.task) [] = [.openDocument r.location.uri] := by
      simp only [Reveal.calls, records, recordsIn, recorded, List.nil_append, seenIn_map,
        List.filterMap_cons, Event.call?, calls]
      rfl
    rw [first]
    exact .opening
  · simp only [Reveal.outcomes, records, recordsIn, recorded, List.nil_append, seenIn_map,
      List.filterMap_cons, Event.outcome?, outcomes]
    rfl

theorem Begins.phase (h : r.Begins w m) (hw : Sound w) (lasts : r.Lasts (w.move m) more) :
    ∃ a, r.Phase w m more a := by
  induction more using List.reverseRecOn with
  | nil => exact ⟨_, h.starts hw⟩
  | append_singleton more m' ih =>
    obtain ⟨before, -, underway⟩ := lasts_append.mp lasts
    obtain ⟨a, rests, reached, silent⟩ := ih before
    have sound := (hw.move m).run more
    -- A step of its own task opens the document and goes on, since the reveal is still under way;
    -- in any other move it rests.
    by_cases own : m' = .step r.task
    · subst own
      change r.Underway (((w.move m).run more).step r.task) at underway
      obtain ⟨new, history, step⟩ := rests.step sound reached.cases
      have calls := seenIn_records Event.call? before rfl history [] (.inl rfl)
      have outcomes := seenIn_records Event.outcome? before rfl history [] (.inl rfl)
      have rests' (a : Await) : r.RestsIn a (((w.move m).run more).step r.task) →
          r.RestsIn a ((w.move m).run (more ++ [.step r.task])) := by
        rw [run_concat]
        exact id
      cases step with
      | idles unready =>
        refine ⟨a, rests' a ?_, ?_, ?_⟩
        · rwa [step_of_unready unready]
        · rw [Reveal.calls, calls]
          exact (List.append_nil (r.calls w m more)).symm ▸ reached
        · rw [Reveal.outcomes, outcomes]
          exact (List.append_nil (r.outcomes w m more)).trans silent
      | opens going answer made told next same =>
        refine ⟨_, rests' _ next, ?_, ?_⟩
        · rw [Reveal.calls, calls, made]
          exact reached.next
        · rw [Reveal.outcomes, outcomes, told]
          exact (List.append_nil (r.outcomes w m more)).trans silent
      | drops aborted gone same => exact absurd underway gone
      | fails going answer made told gone same => exact absurd underway gone
      | shows going answer made told gone same => exact absurd underway gone
    · have nothing : r.records w m (more ++ [m']) = r.records w m more := by
        rw [records_append before]
        simp [recordsIn, recordedBy_other own]
      refine ⟨a, ?_, ?_, ?_⟩
      · rw [run_concat]
        exact rests.move sound own
      · rwa [Reveal.calls, nothing]
      · rwa [Reveal.outcomes, nothing]

/-- Nothing but a step of its own task ends a reveal. -/
theorem Underway.ends (h : r.Underway w) (hw : Sound w) (gone : ¬r.Lasts w more) :
    ∃ before after, more = before ++ .step r.task :: after ∧ r.Lasts w before ∧
      ¬r.Underway ((w.run before).step r.task) := by
  induction more generalizing w with
  | nil => exact absurd h gone
  | cons m more ih =>
    by_cases next : r.Underway (w.move m)
    · have rest : ¬r.Lasts (w.move m) more := fun lasts => gone ⟨h, lasts⟩
      obtain ⟨before, after, rfl, lasts, ended⟩ := ih next (hw.move m) rest
      exact ⟨m :: before, after, rfl, ⟨h, lasts⟩, ended⟩
    · by_cases own : m = .step r.task
      · subst own
        exact ⟨[], more, rfl, h, next⟩
      · exact absurd (h.move hw own) next

theorem RestsIn.unique {b : Await} (h : r.RestsIn a w) (h' : r.RestsIn b w) : a = b :=
  Option.some.inj (h.symm.trans h')

theorem Lasts.resting (h : r.Lasts w more) (rests : r.RestsIn a (w.run more)) :
    a = r.opening ∨ a = r.showing := by
  obtain ⟨b, hb, rests'⟩ := h.underway.rests
  rwa [rests.unique rests']

theorem highlight_shows (w : Workspace) (s : Settings) (l : Location) :
    (w.highlight s l).revealer.active = some (w.nextHighlight s l) ∧
      paintedIn (w.highlight s l).history (w.nextHighlight s l) = [l.revealRange] ∧
      (w.highlight s l).runs w.tasks.length
        (.retraction (w.nextHighlight s l) (w.now + s.duration.toNat)) := by
  rw [highlight_eq]
  refine ⟨rfl, ?_, List.getElem?_concat_length⟩
  simp [highlightEvents, paintedIn_cons, Event.paintOf?]

/-- How a step of its task in `u` ends a reveal that rested in a call: it stops there, or it is through. -/
inductive Ending (r : Reveal) (w : Workspace) (m : Move) (more : List Move) (u : Workspace) : Await → Prop
  | drops {a : Await} (aborted : r.IsAborted u) (reached : r.Reached a (r.calls w m more))
      (none : r.outcomes w m more = []) : Ending r w m more u a
  | fails {a : Await} {p} (going : ¬r.IsAborted u) (answer : (u.answer a).2 = .over (.error p))
      (reached : r.Reached a (r.calls w m more)) (failed : r.outcomes w m more = [.error p]) :
      Ending r w m more u a
  | shows (going : ¬r.IsAborted u) (answer : (u.answer r.showing).2 = .over (.ok ()))
      (paints : r.Paints w m more u (u.nextHighlight r.settings r.location)) :
      Ending r w m more u r.showing

theorem Begins.ending (h : r.Begins w m) (hw : Sound w) (hu : u = (w.move m).run before)
    (lasts : r.Lasts (w.move m) before) (rests : r.RestsIn a u)
    (gone : ¬r.Underway (u.step r.task)) (after : List Move) :
    r.Ending w m (before ++ .step r.task :: after) u a := by
  subst hu
  obtain ⟨a', rests', reached, silent⟩ := h.phase hw lasts
  -- A reveal rests in one call at a time.
  obtain rfl := rests.unique rests'
  obtain ⟨new, history, step⟩ := rests.step ((hw.move m).run before) reached.cases
  have calls : r.calls w m (before ++ .step r.task :: after) =
      r.calls w m before ++ seenIn Event.call? new :=
    seenIn_records Event.call? lasts rfl history after (.inr gone)
  have outcomes : r.outcomes w m (before ++ .step r.task :: after) = seenIn Event.outcome? new := by
    have added := seenIn_records Event.outcome? lasts rfl history after (.inr gone)
    change _ = r.outcomes w m before ++ _ at added
    rwa [silent, List.nil_append] at added
  cases step with
  | idles unready =>
    rw [step_of_unready unready] at gone
    exact absurd (rests.underway reached.cases) gone
  | drops aborted gone same =>
    apply Ending.drops aborted
    · rw [calls]
      exact (List.append_nil _).symm ▸ reached
    · rw [outcomes]
      rfl
  | fails going answer made told gone same =>
    apply Ending.fails going answer
    · rwa [calls, made, List.append_nil]
    · rw [outcomes, told]
  | opens going answer made told next same => exact absurd (.inr next) gone
  | shows going answer made told gone same =>
    obtain ⟨active, painted, runs⟩ := highlight_shows
      (((w.move m).run before).record (.carriedOut r.showing.call)) r.settings r.location
    apply Ending.shows going answer
    constructor
    case calls =>
      rw [calls, made]
      exact reached.shown _ _
    case outcomes => rw [outcomes, told]
    case active => exact same.active.trans active
    case painted => exact (same.painted _).trans painted
    case retracts =>
      exact ⟨_, List.getElem?_eq_none (Nat.le_refl _), (same.pending _ _ _).mpr runs⟩

/-- What became of the calls and of the result of a reveal, whatever has happened since. -/
theorem Begins.course (h : r.Begins w m) (hw : Sound w) (more : List Move) :
    (∃ a, r.Reached a (r.calls w m more) ∧ r.outcomes w m more ≠ [.ok ()]) ∨
      ∃ before after u new, more = before ++ .step r.task :: after ∧ u = (w.move m).run before ∧
        r.Lasts (w.move m) before ∧ r.RestsIn r.showing u ∧ r.Paints w m more u new := by
  by_cases lasts : r.Lasts (w.move m) more
  · obtain ⟨a, -, reached, silent⟩ := h.phase hw lasts
    exact .inl ⟨a, reached, by simp [silent]⟩
  · obtain ⟨before, after, rfl, lasts, gone⟩ := h.after.ends (hw.move m) lasts
    obtain ⟨a, -, rests⟩ := lasts.underway.rests
    cases h.ending hw rfl lasts rests gone after with
    | drops aborted reached none => exact .inl ⟨a, reached, by simp [none]⟩
    | fails going answer reached failed => exact .inl ⟨a, reached, by simp [failed]⟩
    | shows going answer paints => exact .inr ⟨before, after, _, _, rfl, rfl, lasts, rests, paints⟩

/-- A reveal makes its calls in one order and all of them just when it succeeds; where it fails or is
dropped it leaves all highlights as they are. -/
theorem Begins.allOrNothing (h : r.Begins w m) (hw : Sound w) : r.AllOrNothing w m := by
  obtain ⟨begun, -, x, new, hx, work, opens, history⟩ := h.opens hw
  constructor
  case configured => exact opens.configured
  case range =>
    simp only [Location.revealRange, Position.before, Bool.or_eq_true, Bool.and_eq_true, decide_eq_true_iff,
      beq_iff_eq]
    split <;> rfl
  -- What was called by some moment is either the way to the call it rests in or all of it.
  case ordered =>
    intro more
    rcases h.course hw more with ⟨a, reached, -⟩ | ⟨_, _, u, new, -, -, -, -, paints⟩
    · exact ⟨⟨0, 0⟩, none, reached.prefix_script _ _⟩
    · exact ⟨new, u.revealer.active, paints.calls ▸ List.prefix_rfl⟩
  case complete =>
    intro more
    rcases h.course hw more with ⟨a, reached, not⟩ | ⟨_, _, u, new, -, -, -, -, paints⟩
    · constructor
      · rintro ⟨new, previous, through⟩
        exact absurd through (reached.ne_script new previous)
      · exact fun succeeded => absurd succeeded not
    · exact ⟨fun _ => paints.outcomes, fun _ => ⟨new, u.revealer.active, paints.calls⟩⟩
  case waits =>
    intro more lasts
    obtain ⟨a, rests, reached, silent⟩ := h.phase hw lasts
    exact ⟨a, rests, reached, silent⟩
  case ends => exact fun more gone => h.after.ends (hw.move m) gone
  -- The answer that has come rules out the other two endings.
  case fails =>
    intro before after a u p hu lasts rests going ready answer
    have sound : Sound u := hu ▸ (hw.move m).run before
    have gone := rests.over sound (lasts.resting (hu ▸ rests)) ready (.inr ⟨_, answer⟩)
    cases h.ending hw hu lasts rests gone after with
    | drops aborted reached none => exact absurd aborted going
    | fails going answer' reached failed =>
      rw [answer] at answer'
      cases answer'
      exact ⟨reached, failed⟩
    | shows going answer' paints =>
      rw [answer] at answer'
      cases answer'
  case dropped =>
    intro before after a u hu lasts rests aborted
    have sound : Sound u := hu ▸ (hw.move m).run before
    have ready := rests.ready_of_aborted aborted
    have gone := rests.over sound (lasts.resting (hu ▸ rests)) ready (.inl aborted)
    cases h.ending hw hu lasts rests gone after with
    | drops aborted reached none => exact ⟨reached, none⟩
    | fails going answer reached failed => exact absurd aborted going
    | shows going answer paints => exact absurd aborted going
  case shows =>
    intro before after u hu lasts rests going ready answer
    have sound : Sound u := hu ▸ (hw.move m).run before
    have gone := rests.over sound (.inr rfl) ready (.inr ⟨_, answer⟩)
    cases h.ending hw hu lasts rests gone after with
    | drops aborted reached none => exact absurd aborted going
    | fails going answer' reached failed =>
      rw [answer] at answer'
      cases answer'
    | shows going answer' paints => exact ⟨_, paints⟩
  case succeeds =>
    intro more succeeded
    rcases h.course hw more with ⟨a, -, not⟩ | paints
    · exact absurd succeeded not
    · exact paints
  case untouched =>
    constructor
    · subst begun
      obtain ⟨-, rest, rfl, before⟩ := opens
      apply hw.step_untouched hx work history
      intro e he
      rcases List.mem_cons.mp he with rfl | he
      · simp [Event.kind]
      · exact kind_of_isPreparation (before e he)
    -- Of what its task can do next, only the step that paints touches a highlight, and that one succeeds.
    · intro before u hu lasts not
      obtain ⟨a, ha, rests⟩ := lasts.underway.rests
      rw [← hu] at rests
      obtain ⟨new, history, step⟩ := rests.step (hu ▸ (hw.move m).run before) ha
      have outcomes := seenIn_records Event.outcome? lasts hu history [] (.inl rfl)
      cases step with
      | idles unready =>
        rw [step_of_unready unready]
        exact .refl
      | drops aborted gone same => exact same
      | fails going answer made told gone same => exact same
      | opens going answer made told next same => exact same
      | shows going answer made told gone same =>
        rw [Reveal.outcomes, outcomes, told] at not
        exact absurd (List.mem_append_right _ List.mem_cons_self) not

end Reveal

/-- Whatever is under way, and whatever hosts, users and the service do meanwhile, a reveal makes its calls
in one order and all of them just when it succeeds; where it fails or is dropped it leaves all highlights
as they are. -/
theorem run_allOrNothing (settings : Settings) (visible : List Url) (symbols : List Symbol)
    (conduct : Conduct) (moves : List Move) {r : Reveal} {m : Move}
    (begins : r.Begins ((Workspace.new settings visible symbols conduct).run moves) m) :
    r.AllOrNothing ((Workspace.new settings visible symbols conduct).run moves) m :=
  begins.allOrNothing ((Sound.new settings visible symbols conduct).run moves)

/-- A reveal of a reversed range makes six calls to take the place of the highlight that is active, or
stops after two of them when its document is not shown. -/
theorem reversed_allOrNothing :
    let l : Location := ⟨⟨"file:///reversed.rs", by decide +kernel⟩, ⟨⟨8, 4⟩, ⟨2, 0⟩⟩⟩
    let r : Reveal := ⟨3, .default, l⟩
    let w := (Workspace.new .default [] [] (.prompt false false)).run
      [.request (.reveal l) none, .step 1, .step 1, .step 1, .request (.reveal l) none]
    r.Begins w (.step 3) ∧ w.revealer.active = some ⟨1, 1⟩ ∧ r.AllOrNothing w (.step 3) ∧
      (r.calls w (.step 3) [.step 3, .step 3]).length = 6 ∧
      (r.calls w (.step 3) [.step 3, .setRefusal .showDocument true, .step 3]).length = 2 := by
  intro l r w
  have begins : r.Begins w (.step 3) := ⟨by decide +kernel, by decide +kernel⟩
  exact ⟨begins, by decide +kernel, run_allOrNothing _ _ _ _ _ begins, by decide +kernel,
    by decide +kernel⟩

end DiagramLinks
