import DiagramLinks.Proofs.RevealCourse

namespace DiagramLinks

open Workspace

variable {w u : Workspace} {m : Move} {r : Reveal} {s s' : Settings}

/-- Two settings with the same duration, column and colour. -/
structure Settings.Agrees (s s' : Settings) : Prop where
  duration : s.duration = s'.duration
  column : s.column = s'.column
  color : s.color = s'.color

/-- A reveal that begins in `w` with the move `m` has all that it shows from some settings, whatever is set
while it is under way. -/
structure Reveal.Uses (r : Reveal) (w : Workspace) (m : Move) (s : Settings) : Prop where
  column : ∀ more uri column keepFocus, .showDocument uri column keepFocus ∈ r.calls w m more →
    column = s.column
  color : ∀ more decoration color, .createDecoration decoration color ∈ r.calls w m more → color = s.color
  /-- A retraction that its task schedules is due when the duration is over. -/
  delay : ∀ before u, u = (w.move m).run before → r.Lasts (w.move m) before → ∀ t h due,
    (u.step r.task).runs t (.retraction h due) → u.runs t (.retraction h due) ∨
      due = u.now + s.duration.toNat
  /-- When it succeeds it has made both calls, and a retraction is scheduled for the highlight that it painted. -/
  succeeds : ∀ more, r.outcomes w m more = [.ok ()] → ∃ before after u new t,
    more = before ++ .step r.task :: after ∧ u = (w.move m).run before ∧ r.Lasts (w.move m) before ∧
      .showDocument r.location.uri s.column true ∈ r.calls w m more ∧
      .createDecoration new.decoration s.color ∈ r.calls w m more ∧
      (u.step r.task).revealer.active = some new ∧ ¬u.runs t (.retraction new (u.now + s.duration.toNat)) ∧
      (u.step r.task).runs t (.retraction new (u.now + s.duration.toNat))

/-- How settings of the service take effect in `w`. Reveals have a copy of them, which is replaced only
when something changes that they use; it agrees with them all the same. -/
structure Workspace.OneConfiguration (w : Workspace) : Prop where
  agrees : w.revealer.settings.Agrees w.service.settings
  uses : ∀ r m, Reveal.Begins r w m → r.Uses w m w.service.settings
  /-- Without a section nothing is set. -/
  absent : ∀ settings : Json, settings.get? "codeLink" = none → (w.readSettings settings).2 = false ∧
    (w.readSettings settings).1.service.settings = w.service.settings ∧
    (w.readSettings settings).1.revealer.settings = w.revealer.settings
  present : ∀ settings part : Json, settings.get? "codeLink" = some part →
    (w.readSettings settings).2 = true ∧
    (w.readSettings settings).1.service.settings = Settings.ofSection part

namespace Settings

theorem Agrees.refl (s : Settings) : s.Agrees s := ⟨rfl, rfl, rfl⟩

theorem Agrees.trans {s'' : Settings} (h : s.Agrees s') (h' : s'.Agrees s'') : s.Agrees s'' :=
  ⟨h.duration.trans h'.duration, h.column.trans h'.column, h.color.trans h'.color⟩

/-- The test for a change looks at all that reveals use. -/
theorem revealsDiffer_eq_false_iff : s.revealsDiffer s' = false ↔ s.Agrees s' := by
  simp only [revealsDiffer, Bool.or_eq_false_iff, bne_eq_false_iff_eq]
  constructor
  · rintro ⟨⟨duration, column⟩, color⟩
    exact ⟨duration, column, color⟩
  · rintro ⟨duration, column, color⟩
    exact ⟨⟨duration, column⟩, color⟩

end Settings

/-- Neither the settings of the service nor those of reveals change. -/
structure SameSettings (w u : Workspace) : Prop where
  service : u.service.settings = w.service.settings
  revealer : u.revealer.settings = w.revealer.settings

theorem SameSettings.refl : SameSettings w w := ⟨rfl, rfl⟩

theorem SameSettings.trans {v : Workspace} (h : SameSettings w u) (h' : SameSettings u v) : SameSettings w v :=
  ⟨h'.service.trans h.service, h'.revealer.trans h.revealer⟩

theorem Change.sameSettings {b : Author} (h : Change b w u) (other : b ≠ .host) : SameSettings w u := by
  cases h with
  | highlight s l =>
    rw [highlight_eq]
    exact ⟨rfl, rfl⟩
  | retract h =>
    rw [retract_eq]
    exact ⟨rfl, rfl⟩
  | openDiagram id choice hasNode =>
    obtain ⟨stores, store, -, he⟩ := openDiagram_eq w id choice hasNode
    rw [he]
    exact ⟨rfl, rfl⟩
  | release d =>
    obtain ⟨tasks, he, -⟩ := releaseSession_eq w d
    rw [he]
    exact ⟨rfl, rfl⟩
  | endService =>
    obtain ⟨tasks, he, -⟩ := endService_eq w
    rw [he]
    exact ⟨rfl, rfl⟩
  | setSettings => exact absurd rfl other
  | setRevealSettings => exact absurd rfl other
  | _ => exact ⟨rfl, rfl⟩

theorem Chain.sameSettings {authors : List Author} (h : Chain authors w u) (no : .host ∉ authors) :
    SameSettings w u := by
  apply h.keeps .refl
  intro b hb v v' same hc
  exact same.trans (hc.sameSettings fun host => no (host ▸ hb))

/-- A move that sets settings. -/
def Move.setsSettings : Move → Bool
  | .readSettings _ => true
  | .setSettings _ => true
  | .setRevealSettings _ => true
  | _ => false

theorem host_not_mem_stepAuthors (w : Workspace) (t : TaskNo) : .host ∉ w.stepAuthors t := by
  unfold stepAuthors jobAuthors
  split
  all_goals try split
  all_goals simp [working, answering]

theorem Sound.move_sameSettings (hw : Sound w) (other : m.setsSettings = false) :
    SameSettings w (w.move m) := by
  have chain := hw.move_chain m
  by_cases refused : m.needsService && !w.service.held
  · have still : w.move m = w := if_pos refused
    rw [still]
    exact .refl
  have moved : w.move m = w.carryOut m := if_neg refused
  cases m with
  | step t => exact chain.sameSettings (host_not_mem_stepAuthors w t)
  | openDiagram id choice hasNode onService =>
    apply chain.sameSettings
    cases onService <;> simp [authors]
  | closeDiagram id => exact chain.sameSettings (by simp [authors])
  | closeSession d => exact chain.sameSettings (by simp [authors])
  | dropSession d => exact chain.sameSettings (by simp [authors])
  | focusDiagram id => exact chain.sameSettings (by simp [authors])
  | dropService => exact chain.sameSettings (by simp [authors])
  | readSettings settings => cases other
  | setSettings settings => cases other
  | setRevealSettings settings => cases other
  | focusEditor editor =>
    rw [moved]
    cases editor <;> exact ⟨rfl, rfl⟩
  | send d e =>
    rw [moved]
    simp only [carryOut, send]
    split
    · exact .refl
    · split <;> exact ⟨rfl, rfl⟩
  | closeStore d =>
    rw [moved]
    simp only [carryOut, closeStore, modifyActivation]
    split <;> exact ⟨rfl, rfl⟩
  | _ =>
    rw [moved]
    exact ⟨rfl, rfl⟩

theorem setSettings_service (w : Workspace) (s : Settings) : (w.setSettings s).service.settings = s := by
  unfold setSettings
  dsimp only
  split <;> rfl

/-- Where the copy agrees with the settings before, it agrees with the new ones. -/
theorem setSettings_agrees (agrees : w.revealer.settings.Agrees w.service.settings) (s : Settings) :
    (w.setSettings s).revealer.settings.Agrees s := by
  unfold setSettings
  dsimp only
  split
  · exact .refl s
  · next same => exact agrees.trans (Settings.revealsDiffer_eq_false_iff.mp (by simpa using same))

theorem readSettings_absent {settings : Json} (absent : settings.get? "codeLink" = none) :
    w.readSettings settings = (w.note .noSection, false) := by
  simp [readSettings, Settings.ofJson?, absent]

/-- With a section, all settings are set anew. -/
theorem readSettings_present {settings part : Json} (present : settings.get? "codeLink" = some part) :
    (w.readSettings settings).2 = true ∧ ∃ v, SameSettings w v ∧
      (w.readSettings settings).1 = v.setSettings (.ofSection part) := by
  simp only [readSettings, Settings.ofJson?, present, Option.map_some, true_and]
  refine ⟨_, ?_, rfl⟩
  split <;> exact ⟨rfl, rfl⟩

theorem Sound.move_agrees (hw : Sound w) (agrees : w.revealer.settings.Agrees w.service.settings)
    (own : ∀ s, m ≠ .setRevealSettings s) : (w.move m).revealer.settings.Agrees (w.move m).service.settings := by
  by_cases sets : m.setsSettings = true
  · by_cases refused : m.needsService && !w.service.held
    · have still : w.move m = w := if_pos refused
      rwa [still]
    have moved : w.move m = w.carryOut m := if_neg refused
    rw [moved]
    cases m with
    | readSettings settings =>
      show (w.readSettings settings).1.revealer.settings.Agrees (w.readSettings settings).1.service.settings
      cases found : settings.get? "codeLink" with
      | none =>
        rw [readSettings_absent found]
        exact agrees
      | some part =>
        obtain ⟨-, v, same, set⟩ := readSettings_present (w := w) found
        rw [set, setSettings_service]
        apply setSettings_agrees
        rwa [same.service, same.revealer]
    | setSettings s =>
      show (w.setSettings s).revealer.settings.Agrees (w.setSettings s).service.settings
      rw [setSettings_service]
      exact setSettings_agrees agrees s
    | setRevealSettings s => exact absurd rfl (own s)
    | _ => cases sets
  · have same := hw.move_sameSettings (Bool.not_eq_true _ ▸ sets)
    rwa [same.service, same.revealer]

theorem Sound.run_agrees {moves : List Move} (hw : Sound w)
    (agrees : w.revealer.settings.Agrees w.service.settings) (own : ∀ s, .setRevealSettings s ∉ moves) :
    (w.run moves).revealer.settings.Agrees (w.run moves).service.settings := by
  induction moves generalizing w with
  | nil => exact agrees
  | cons m moves ih =>
    have first : ∀ s, m ≠ .setRevealSettings s := by
      rintro s rfl
      exact own s List.mem_cons_self
    exact ih (hw.move m) (hw.move_agrees agrees first) fun s mem => own s (List.mem_cons_of_mem m mem)

theorem highlight_delay (w : Workspace) (s : Settings) (l : Location) {t : TaskNo} {h : Highlight} {due : Nat}
    (pending : (w.highlight s l).runs t (.retraction h due)) :
    w.runs t (.retraction h due) ∨ due = w.now + s.duration.toNat := by
  simp only [runs, highlight_eq, getElem?_concat] at pending
  rcases pending with before | ⟨-, new⟩
  · exact .inl before
  · simp only [Task.mk.injEq, Activity.retraction.injEq] at new
    exact .inr new.1.2.symm

namespace Reveal

/-- A step of a reveal schedules no retraction but the one of its highlight. -/
theorem Underway.delay (h : r.Underway u) (hu : Sound u) {t : TaskNo} {k : Highlight} {due : Nat}
    (pending : (u.step r.task).runs t (.retraction k due)) :
    u.runs t (.retraction k due) ∨ due = u.now + r.settings.duration.toNat := by
  obtain ⟨a, ha, rests⟩ := h.rests
  obtain ⟨new, -, step⟩ := rests.step hu ha
  cases step with
  | idles unready =>
    rw [step_of_unready unready] at pending
    exact .inl pending
  | drops aborted gone same => exact .inl ((same.pending t k due).mp pending)
  | fails going answer made told gone same => exact .inl ((same.pending t k due).mp pending)
  | opens going answer made told next same => exact .inl ((same.pending t k due).mp pending)
  | shows going answer made told gone same =>
    have shown := (same.pending t k due).mp pending
    exact highlight_delay (u.record (.carriedOut r.showing.call)) r.settings r.location shown

/-- The calls of a reveal take its column and its colour from its settings. -/
theorem column_of_mem_script {new : Highlight} {previous : Option Highlight} {uri : Url} {column : UInt32}
    {keepFocus : Bool} (mem : .showDocument uri column keepFocus ∈ r.script new previous) :
    column = r.settings.column := by
  cases previous <;> simp [script, painting] at mem <;> exact mem.2.1

theorem color_of_mem_script {new : Highlight} {previous : Option Highlight} {decoration : DecorationId}
    {color : String} (mem : .createDecoration decoration color ∈ r.script new previous) :
    color = r.settings.color := by
  cases previous <;> simp [script, painting] at mem <;> exact mem.2

theorem AllOrNothing.uses (h : r.AllOrNothing w m) (hw : Sound w)
    (agrees : w.revealer.settings.Agrees s) : r.Uses w m s := by
  have same : r.settings.Agrees s := h.configured ▸ agrees
  constructor
  case column =>
    intro more uri column keepFocus mem
    obtain ⟨new, previous, part⟩ := h.ordered more
    exact (column_of_mem_script (part.subset mem)).trans same.column
  case color =>
    intro more decoration color mem
    obtain ⟨new, previous, part⟩ := h.ordered more
    exact (color_of_mem_script (part.subset mem)).trans same.color
  case delay =>
    rintro before u rfl lasts t k due pending
    rw [← same.duration]
    exact lasts.underway.delay ((hw.move m).run before) pending
  case succeeds =>
    intro more succeeded
    obtain ⟨before, after, u, new, split, hu, lasts, -, paints⟩ := h.succeeds more succeeded
    obtain ⟨t, unborn, pending⟩ := paints.retracts
    have shows : .showDocument r.location.uri s.column true ∈ r.calls w m more := by
      rw [paints.calls, ← same.column]
      simp [script]
    have colors : .createDecoration new.decoration s.color ∈ r.calls w m more := by
      rw [paints.calls, ← same.color]
      simp [script, painting]
    have unscheduled : ¬u.runs t (.retraction new (u.now + s.duration.toNat)) := by
      simp [runs, unborn]
    rw [same.duration] at pending
    exact ⟨before, after, u, new, t, split, hu, lasts, shows, colors, paints.active, unscheduled, pending⟩

end Reveal

theorem Sound.oneConfiguration (hw : Sound w) (agrees : w.revealer.settings.Agrees w.service.settings) :
    w.OneConfiguration where
  agrees := agrees
  uses r m begins := (begins.allOrNothing hw).uses hw agrees
  absent settings absent := by
    rw [readSettings_absent absent]
    exact ⟨rfl, rfl, rfl⟩
  present settings part present := by
    obtain ⟨told, v, -, set⟩ := readSettings_present (w := w) present
    rw [set, setSettings_service]
    exact ⟨told, rfl⟩

/-- As long as reveals are set up by the service alone, they use its settings. -/
theorem run_oneConfiguration (settings : Settings) (visible : List Url) (symbols : List Symbol)
    (conduct : Conduct) (moves : List Move) (own : ∀ s, .setRevealSettings s ∉ moves) :
    ((Workspace.new settings visible symbols conduct).run moves).OneConfiguration := by
  have sound := Sound.new settings visible symbols conduct
  exact (sound.run moves).oneConfiguration (sound.run_agrees (.refl settings) own)

/-- Settings that are replaced while a reveal is suspended reach the service and its reveals to come, and not
the reveal. -/
theorem replaced_oneConfiguration :
    let l : Location := ⟨⟨"file:///replaced.rs", by decide +kernel⟩, ⟨⟨1, 0⟩, ⟨2, 0⟩⟩⟩
    let r : Reveal := ⟨1, .default, l⟩
    let new : Settings := ⟨true, 250, 3, "editor.findMatchBackground"⟩
    let before : List Move := [.request (.reveal l) none]
    let during : List Move := [.setSettings new, .readSettings .null]
    let w (moves : List Move) := (Workspace.new .default [] [] (.prompt false false)).run moves
    (w (before ++ .step 1 :: during)).OneConfiguration ∧
      (w (before ++ .step 1 :: during)).revealer.settings = new ∧
      r.Uses (w before) (.step 1) .default ∧
      r.outcomes (w before) (.step 1) (during ++ [.step 1, .step 1]) = [.ok ()] := by
  intro l r new before during w
  have kept : (w before).OneConfiguration := run_oneConfiguration _ _ _ _ before (by simp [before])
  have replaced : (w (before ++ .step 1 :: during)).OneConfiguration :=
    run_oneConfiguration _ _ _ _ _ (by simp [before, during])
  have begins : r.Begins (w before) (.step 1) := ⟨by decide +kernel, by decide +kernel⟩
  have first : (w before).service.settings = .default := by decide +kernel
  have succeeded : r.outcomes (w before) (.step 1) (during ++ [.step 1, .step 1]) = [.ok ()] := by
    dsimp only [l, r, new, before, during, w]
    rfl
  exact ⟨replaced, by decide +kernel, first ▸ kept.uses r (.step 1) begins, succeeded⟩

end DiagramLinks
