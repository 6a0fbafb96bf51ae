import Mathlib.Data.List.Infix
import DiagramLinks.Proofs.Sound

namespace DiagramLinks

open Workspace

variable {a : Author} {authors : List Author} {w w' : Workspace}

/-- The ranges that an event paints through a handle. -/
def Event.paintOf? (h : Highlight) : Event → Option (List Range)
  | .called (.paint editor decoration ranges) =>
    if (⟨editor, decoration⟩ : Highlight) = h then some ranges else none
  | _ => none

/-- The ranges painted through a handle after a history: those of its latest call. -/
def paintedIn (history : List Entry) (h : Highlight) : List Range :=
  (history.findSome? fun entry => entry.event.paintOf? h).getD []

/-- The highlight and the location of a reveal that painted. -/
def Event.reveal? : Event → Option (Highlight × Location)
  | .highlighted h _ l => some (h, l)
  | _ => none

/-- What the latest reveal of a history highlighted. -/
def lastReveal? (history : List Entry) : Option (Highlight × Location) :=
  history.findSome? fun entry => entry.event.reveal?

namespace Workspace

/-- The retraction of a highlight has not fired. -/
def isPending (w : Workspace) (h : Highlight) : Prop :=
  ∃ t due, w.runs t (.retraction h due)

end Workspace

/-- No more than one handle has painted ranges. -/
def PaintsOne (history : List Entry) : Prop :=
  ∀ h h', paintedIn history h ≠ [] → paintedIn history h' ≠ [] → h = h'

/-- What shows of the reveals of a run. -/
structure OneHighlight (w : Workspace) : Prop where
  /-- After every call so far, no more than one decoration was painted. -/
  once : ∀ past, past <:+ w.history → PaintsOne past
  /-- What is painted is what is active. -/
  painted : ∀ h, paintedIn w.history h ≠ [] ↔ w.revealer.active = some h
  /-- The active highlight shows the one range of the location of its reveal. -/
  range : ∀ h, w.revealer.active = some h →
    ∃ l, lastReveal? w.history = some (h, l) ∧ paintedIn w.history h = [l.revealRange]
  /-- The highlight of the latest reveal is active until it is retracted, and no other one is. -/
  active : ∀ h, w.revealer.active = some h ↔
    (∃ l, lastReveal? w.history = some (h, l)) ∧ w.isPending h
  /-- Each highlight has one retraction, spawned when it was painted. -/
  own : ∀ entry ∈ w.history, ∀ h s l, entry.event = .highlighted h s l →
    ∃! t : TaskNo, w.spawned[t]? = some (.retraction h (entry.time + s.duration.toNat))

variable {e : Entry} {past : List Entry} {h : Highlight}

theorem paintedIn_cons :
    paintedIn (e :: past) h = (e.event.paintOf? h).getD (paintedIn past h) := by
  unfold paintedIn
  rw [List.findSome?_cons]
  cases e.event.paintOf? h <;> rfl

theorem paintOf?_of_kind (hk : e.event.kind ≠ .decoration) : e.event.paintOf? h = none := by
  unfold Event.paintOf?
  split
  · simp_all [Event.kind]
  · rfl

theorem paintedIn_append {new : List Entry} (quiet : ∀ e ∈ new, e.event.kind ≠ .decoration) :
    paintedIn (new ++ past) h = paintedIn past h := by
  induction new with
  | nil => rfl
  | cons e new ih =>
    rw [List.cons_append, paintedIn_cons, paintOf?_of_kind (quiet e List.mem_cons_self)]
    exact ih fun e he => quiet e (List.mem_cons_of_mem _ he)

theorem findSome?_append_of_blind {α : Type} {f : Event → Option α} {new : List Entry}
    (blind : ∀ e ∈ new, f e.event = none) :
    (new ++ past).findSome? (fun entry => f entry.event) =
      past.findSome? fun entry => f entry.event := by
  rw [List.findSome?_append, List.findSome?_eq_none_iff.mpr blind, Option.none_or]

theorem lastReveal?_append {new : List Entry} (quiet : ∀ e ∈ new, e.event.kind ≠ .decoration) :
    lastReveal? (new ++ past) = lastReveal? past := by
  refine findSome?_append_of_blind fun e he => ?_
  have kind := quiet e he
  revert kind
  cases e.event <;> simp [Event.kind, Event.reveal?]

/-- No more than one handle had painted ranges at any time. -/
def PaintsOnce (history : List Entry) : Prop :=
  ∀ past, past <:+ history → PaintsOne past

namespace PaintsOnce

theorem cons (hp : PaintsOnce past) (one : PaintsOne (e :: past)) : PaintsOnce (e :: past) := by
  intro p hs
  rcases List.suffix_cons_iff.mp hs with rfl | hs
  · exact one
  · exact hp p hs

theorem cons_less (hp : PaintsOnce past)
    (less : ∀ h, paintedIn (e :: past) h ≠ [] → paintedIn past h ≠ []) : PaintsOnce (e :: past) :=
  hp.cons fun h h' hh hh' => hp past List.suffix_rfl h h' (less h hh) (less h' hh')

theorem append {new : List Entry} (hp : PaintsOnce past)
    (quiet : ∀ e ∈ new, e.event.kind ≠ .decoration) : PaintsOnce (new ++ past) := by
  induction new with
  | nil => exact hp
  | cons e new ih =>
    refine (ih fun e he => quiet e (List.mem_cons_of_mem _ he)).cons_less fun h hh => ?_
    rwa [paintedIn_cons, paintOf?_of_kind (quiet e List.mem_cons_self)] at hh

end PaintsOnce

theorem paintedIn_clear (n : Nat) (h' : Highlight) :
    paintedIn (⟨n, .called (.paint h'.editor h'.decoration [])⟩ :: past) h =
      if h' = h then [] else paintedIn past h := by
  rw [paintedIn_cons]
  simp only [Event.paintOf?]
  split <;> rfl

/-- What holds of the reveals of a run. -/
structure Lit (w : Workspace) : Prop where
  once : PaintsOnce w.history
  painted : ∀ h, paintedIn w.history h ≠ [] → w.revealer.active = some h
  range : ∀ h l, w.revealer.active = some h → lastReveal? w.history = some (h, l) →
    paintedIn w.history h = [l.revealRange]
  active : ∀ h, w.revealer.active = some h ↔
    (∃ l, lastReveal? w.history = some (h, l)) ∧ w.isPending h
  own : ∀ entry ∈ w.history, ∀ h s l, entry.event = .highlighted h s l →
    ∃ t : TaskNo, w.spawned[t]? = some (.retraction h (entry.time + s.duration.toNat))
  /-- Decorations with a retraction have a number that was given before. -/
  issued : ∀ (t : TaskNo) h due, w.spawned[t]? = some (.retraction h due) →
    ∃ k ≤ w.lastId, h.decoration = w.conduct.decorationOf k
  alone : ∀ (t t' : TaskNo) h due due', w.spawned[t]? = some (.retraction h due) →
    w.spawned[t']? = some (.retraction h due') → t = t'

/-- Besides reveals and retractions nobody records anything of decorations. -/
theorem Change.quiet_history (hc : Change a w w') (ha : a ≠ .reveal) (ha' : a ≠ .retraction) :
    ∃ new, w'.history = new ++ w.history ∧ ∀ e ∈ new, e.event.kind ≠ .decoration := by
  obtain ⟨new, hn, records⟩ := hc.history_eq
  refine ⟨new, hn, fun e he kind => ?_⟩
  have known := records e he
  rw [kind] at known
  cases a <;> simp_all [Author.records]

/-- Only reveals and retractions change the active highlight, and numbers are never given back. -/
theorem Change.revealer_eq (h : Change a w w') (ha : a ≠ .reveal) (ha' : a ≠ .retraction) :
    w'.revealer.active = w.revealer.active ∧ w.lastId ≤ w'.lastId ∧
      w'.conduct.decorationOf = w.conduct.decorationOf := by
  cases h with
  | highlight => exact absurd rfl ha
  | retract => exact absurd rfl ha'
  | dropRetraction => exact absurd rfl ha'
  | addEditor range => exact ⟨rfl, Nat.le_succ _, rfl⟩
  | openDiagram id choice hasNode =>
    obtain ⟨stores, store, -, he⟩ := openDiagram_eq w id choice hasNode
    rw [he]
    exact ⟨rfl, Nat.le_refl _, rfl⟩
  | release d =>
    obtain ⟨tasks, he, -⟩ := releaseSession_eq w d
    rw [he]
    exact ⟨rfl, Nat.le_refl _, rfl⟩
  | endService =>
    obtain ⟨tasks, he, -⟩ := endService_eq w
    rw [he]
    exact ⟨rfl, Nat.le_refl _, rfl⟩
  | _ => exact ⟨rfl, Nat.le_refl _, rfl⟩

theorem Change.decorationOf_eq (h : Change a w w') :
    w'.conduct.decorationOf = w.conduct.decorationOf := by
  by_cases ha : a = .reveal
  · subst ha
    cases h with
    | highlight s l => rw [highlight_eq]
  · by_cases ha' : a = .retraction
    · subst ha'
      cases h with
      | retract h => rw [retract_eq]; rfl
      | dropRetraction h => rfl
    · exact (h.revealer_eq ha ha').2.2

theorem origin_eq_retraction {b : Activity} {due : Nat} (hb : b.origin = .retraction h due) :
    b = .retraction h due := by
  cases b <;> simp_all [Activity.origin]

/-- Retractions are left alone by all but reveals and retractions. -/
theorem Sound.retraction_iff {t : TaskNo} {due : Nat} (hw : Sound w) (hc : Change a w w')
    (ha : a ≠ .reveal) (ha' : a ≠ .retraction) :
    w'.runs t (.retraction h due) ↔ w.runs t (.retraction h due) := by
  have no : a.owns (.retraction h due) = false := by
    cases a <;> simp_all [Author.owns, Activity.isWork]
  constructor
  · intro ht
    rcases hc.task_before ht with ⟨x, hx, ho⟩ | ⟨-, hs⟩
    · have hr := origin_eq_retraction ho
      have hx' := hw.task_eq hc hx (hr ▸ no)
      rwa [runs, ← ht, hx']
    · cases hs
      exact absurd rfl ha
  · exact fun ht => hw.task_eq hc ht no

theorem Sound.retraction_spawned_iff {t : TaskNo} {due : Nat} (hc : Change a w w')
    (ha : a ≠ .reveal) :
    w'.spawned[t]? = some (.retraction h due) ↔ w.spawned[t]? = some (.retraction h due) := by
  constructor
  · intro ht
    rcases hc.spawned_eq with same | ⟨b, hb, born⟩
    · rwa [← same]
    · rw [born] at ht
      rcases getElem?_concat.mp ht with ht | ⟨-, rfl⟩
      · exact ht
      · cases hb
        exact absurd rfl ha
  · exact hc.spawned_of

namespace Lit

theorem quiet (hl : Lit w) (hw : Sound w) (hc : Change a w w') (ha : a ≠ .reveal)
    (ha' : a ≠ .retraction) : Lit w' := by
  obtain ⟨new, hn, kind⟩ := hc.quiet_history ha ha'
  obtain ⟨hactive, hid, hdecoration⟩ := hc.revealer_eq ha ha'
  have pending (h : Highlight) : w'.isPending h ↔ w.isPending h := by
    simp only [isPending, hw.retraction_iff hc ha ha']
  constructor
  case once => exact hn ▸ hl.once.append kind
  case painted =>
    intro h hp
    rw [hn, paintedIn_append kind] at hp
    exact hactive ▸ hl.painted h hp
  case range =>
    intro h l
    rw [hactive, hn, lastReveal?_append kind, paintedIn_append kind]
    exact hl.range h l
  case active =>
    intro h
    rw [hactive, hn, lastReveal?_append kind, pending]
    exact hl.active h
  case own =>
    intro entry he h s l hevent
    rw [hn] at he
    rcases List.mem_append.mp he with he | he
    · exact absurd (by rw [hevent]; rfl) (kind entry he)
    · obtain ⟨t, ht⟩ := hl.own entry he h s l hevent
      exact ⟨t, hc.spawned_of ht⟩
  case issued =>
    intro t h due ht
    obtain ⟨k, hk, hd⟩ := hl.issued t h due ((Sound.retraction_spawned_iff hc ha).mp ht)
    exact ⟨k, Nat.le_trans hk hid, hdecoration ▸ hd⟩
  case alone =>
    intro t t' h due due' ht ht'
    exact hl.alone t t' h due due' ((Sound.retraction_spawned_iff hc ha).mp ht)
      ((Sound.retraction_spawned_iff hc ha).mp ht')

variable {t : TaskNo} {due : Nat}

theorem pending_retract (hl : Lit w) (ht : w.runs t (.retraction h due)) (h' : Highlight) :
    ((w.retract h).finish t).isPending h' ↔ w.isPending h' ∧ h' ≠ h := by
  have tasks : ((w.retract h).finish t).tasks =
      w.tasks.modify t fun task => { task with ended := true } := by
    rw [retract_eq]
    rfl
  constructor
  · rintro ⟨t', due', ht'⟩
    rw [runs, tasks] at ht'
    have ne : t ≠ t' := by
      rintro rfl
      simp [ht] at ht'
    have old : w.runs t' (.retraction h' due') := by simpa [ne] using ht'
    refine ⟨⟨t', due', old⟩, ?_⟩
    rintro rfl
    -- A second retraction of the same highlight would be the same task.
    exact ne (hl.alone t t' h' due due' (spawned_of_task ht) (spawned_of_task old))
  · rintro ⟨⟨t', due', ht'⟩, other⟩
    have ne : t ≠ t' := by
      rintro rfl
      have := ht.symm.trans ht'
      simp_all
    exact ⟨t', due', by simpa [runs, tasks, ne] using ht'⟩

theorem retract (hl : Lit w) (ht : w.runs t (.retraction h due)) :
    Lit ((w.retract h).finish t) := by
  have hc := Change.retract ht
  have history : ((w.retract h).finish t).history =
      ⟨w.now, .called (.paint h.editor h.decoration [])⟩ :: w.history := by
    rw [retract_eq]
    rfl
  have active : ((w.retract h).finish t).revealer.active = w.revealer.active.filter (· ≠ h) := by
    rw [retract_eq]
    rfl
  have last : lastReveal? ((w.retract h).finish t).history = lastReveal? w.history := by
    rw [history]
    rfl
  have pending := hl.pending_retract ht
  constructor
  case once =>
    rw [history]
    refine hl.once.cons_less fun h' hp => ?_
    rw [paintedIn_clear] at hp
    split at hp
    · exact absurd rfl hp
    · exact hp
  -- The retraction clears its own handle and nothing else, whether that is active or not.
  case painted =>
    intro h' hp
    rw [history, paintedIn_clear] at hp
    split at hp
    · exact absurd rfl hp
    · next ne =>
      rw [active, hl.painted h' hp]
      simp [Ne.symm ne]
  case range =>
    intro h' l ha hr
    rw [active, Option.filter_eq_some_iff] at ha
    have ne : h ≠ h' := Ne.symm (of_decide_eq_true ha.2)
    rw [history, paintedIn_clear, if_neg ne]
    exact hl.range h' l ha.1 (last ▸ hr)
  case active =>
    intro h'
    rw [active, Option.filter_eq_some_iff, last, pending, hl.active h', decide_eq_true_iff, and_assoc]
  case own =>
    intro entry he h' s l hevent
    rw [history] at he
    rcases List.mem_cons.mp he with rfl | he
    · cases hevent
    · obtain ⟨t', ht'⟩ := hl.own entry he h' s l hevent
      exact ⟨t', hc.spawned_of ht'⟩
  case issued =>
    intro t' h' due' ht'
    rw [retract_eq]
    exact hl.issued t' h' due' ((Sound.retraction_spawned_iff hc (by simp)).mp ht')
  case alone =>
    intro t₁ t₂ h' due₁ due₂ h₁ h₂
    exact hl.alone t₁ t₂ h' due₁ due₂ ((Sound.retraction_spawned_iff hc (by simp)).mp h₁)
      ((Sound.retraction_spawned_iff hc (by simp)).mp h₂)

theorem unspawned (hl : Lit w) (fresh : Function.Injective w.conduct.decorationOf) (s : Settings)
    (l : Location) : w.spawned[t]? ≠ some (.retraction (w.nextHighlight s l) due) := by
  intro ht
  obtain ⟨k, hk, hd⟩ := hl.issued t _ due ht
  have := fresh hd
  omega

theorem pending_highlight (s : Settings) (l : Location) (h : Highlight) :
    (w.highlight s l).isPending h ↔ w.isPending h ∨ h = w.nextHighlight s l := by
  simp only [isPending, runs, highlight_eq, getElem?_concat]
  constructor
  · rintro ⟨t, due, ht | ⟨-, ht⟩⟩
    · exact .inl ⟨t, due, ht⟩
    · simp only [Task.mk.injEq, Activity.retraction.injEq] at ht
      exact .inr ht.1.1.symm
  · rintro (⟨t, due, ht⟩ | rfl)
    · exact ⟨t, due, .inl ht⟩
    · exact ⟨_, _, .inr ⟨rfl, rfl⟩⟩

theorem paintedIn_create (s : Settings) (l : Location) (n : Nat) (new : Highlight) :
    paintedIn (⟨n, .called (.createDecoration new.decoration s.color)⟩ ::
      ⟨n, .called (.revealRange new.editor l.revealRange)⟩ :: past) h = paintedIn past h := rfl

/-- Before a reveal paints, what was painted is cleared. -/
theorem unlit (hl : Lit w) (s : Settings) (l : Location) (h : Highlight) :
    paintedIn ((w.clearing s l).map (Entry.mk w.now) ++ w.history) h = [] := by
  unfold clearing
  cases ha : w.revealer.active with
  | none =>
    simp only [Option.map_none, Option.toList_none, List.nil_append, List.map_cons, List.map_nil,
      List.cons_append]
    rw [paintedIn_create]
    by_contra hp
    simp [hl.painted h hp] at ha
  | some h' =>
    simp only [Option.map_some, Option.toList_some, List.map_cons, List.map_nil, List.cons_append,
      List.nil_append]
    rw [paintedIn_clear, paintedIn_create]
    split
    · rfl
    · next ne =>
      by_contra hp
      rw [hl.painted h hp] at ha
      exact ne (Option.some.inj ha).symm

theorem once_clearing (hl : Lit w) (s : Settings) (l : Location) :
    PaintsOnce ((w.clearing s l).map (Entry.mk w.now) ++ w.history) := by
  have less {e : Entry} {past : List Entry} (hp : PaintsOnce past)
      (none : ∀ h, e.event.paintOf? h = none ∨ e.event.paintOf? h = some []) :
      PaintsOnce (e :: past) := by
    refine hp.cons_less fun h hh => ?_
    rw [paintedIn_cons] at hh
    rcases none h with hn | hn
    · rwa [hn] at hh
    · rw [hn] at hh
      exact absurd rfl hh
  have reveal := less (e := ⟨w.now, .called (.revealRange (w.nextHighlight s l).editor l.revealRange)⟩)
    hl.once fun _ => .inl rfl
  have create := less
    (e := ⟨w.now, .called (.createDecoration (w.nextHighlight s l).decoration s.color)⟩) reveal
    fun _ => .inl rfl
  unfold clearing
  cases w.revealer.active with
  | none => exact create
  | some h' =>
    refine less create fun h => ?_
    simp only [Event.paintOf?]
    split <;> simp

theorem paintedIn_highlight (hl : Lit w) (s : Settings) (l : Location) (h : Highlight) :
    paintedIn (w.highlight s l).history h =
      if h = w.nextHighlight s l then [l.revealRange] else [] := by
  have cleared := hl.unlit s l h
  rw [highlight_eq]
  simp only [highlightEvents, List.map_cons, List.cons_append, paintedIn_cons, cleared,
    Event.paintOf?, eq_comm (b := h)]
  split <;> rfl

theorem once_highlight (hl : Lit w) (s : Settings) (l : Location) :
    PaintsOnce (w.highlight s l).history := by
  have one : PaintsOne (w.highlight s l).history := by
    intro h h' hh hh'
    rw [hl.paintedIn_highlight] at hh hh'
    have eq : h = w.nextHighlight s l := by
      by_contra ne
      exact hh (if_neg ne)
    have eq' : h' = w.nextHighlight s l := by
      by_contra ne
      exact hh' (if_neg ne)
    rw [eq, eq']
  rw [highlight_eq] at one ⊢
  have clearing := hl.once_clearing s l
  refine (clearing.cons ?_).cons one
  exact one

theorem highlighted_mem {h : Highlight} {s s' : Settings} {l l' : Location}
    (hm : .highlighted h s' l' ∈ w.highlightEvents s l) :
    h = w.nextHighlight s l ∧ s' = s ∧ l' = l := by
  simp only [highlightEvents, clearing, List.mem_cons, List.mem_append, Option.mem_toList,
    Option.map_eq_some_iff, reduceCtorEq, and_false, exists_false, List.not_mem_nil, or_false,
    Event.highlighted.injEq] at hm
  exact hm

theorem highlight (hl : Lit w) (fresh : Function.Injective w.conduct.decorationOf) (s : Settings)
    (l : Location) : Lit (w.highlight s l) := by
  have hc := Change.highlight (w := w) s l
  have active : (w.highlight s l).revealer.active = some (w.nextHighlight s l) := by
    rw [highlight_eq]
  have last : lastReveal? (w.highlight s l).history = some (w.nextHighlight s l, l) := by
    rw [highlight_eq]
    rfl
  have spawned : (w.highlight s l).spawned =
      w.spawned ++ [.retraction (w.nextHighlight s l) (w.now + s.duration.toNat)] := by
    rw [highlight_eq]
    simp [Workspace.spawned, Activity.origin]
  constructor
  case once => exact hl.once_highlight s l
  case painted =>
    intro h hp
    rw [hl.paintedIn_highlight] at hp
    split at hp
    · next eq => rw [active, eq]
    · exact absurd rfl hp
  case range =>
    intro h l' ha hr
    rw [last] at hr
    obtain ⟨rfl, rfl⟩ := Prod.mk.inj (Option.some.inj hr)
    rw [hl.paintedIn_highlight, if_pos rfl]
  -- The new highlight is the active one, and what it replaces is no longer the latest.
  case active =>
    intro h
    rw [active, last, pending_highlight]
    constructor
    · rintro ⟨rfl⟩
      exact ⟨⟨l, rfl⟩, .inr rfl⟩
    · rintro ⟨⟨l', hr⟩, -⟩
      rw [(Prod.mk.inj (Option.some.inj hr)).1]
  case own =>
    intro entry he h s' l' hevent
    rw [spawned]
    rw [highlight_eq] at he
    rcases List.mem_append.mp he with he | he
    · obtain ⟨event, hm, rfl⟩ := List.mem_map.mp he
      obtain rfl : event = .highlighted h s' l' := hevent
      obtain ⟨rfl, rfl, -⟩ := highlighted_mem hm
      exact ⟨_, getElem?_concat.mpr (.inr ⟨rfl, rfl⟩)⟩
    · obtain ⟨t, ht⟩ := hl.own entry he h s' l' hevent
      exact ⟨t, getElem?_concat.mpr (.inl ht)⟩
  case issued =>
    intro t h due ht
    rw [spawned] at ht
    rw [highlight_eq]
    rcases getElem?_concat.mp ht with ht | ⟨-, ht⟩
    · obtain ⟨k, hk, hd⟩ := hl.issued t h due ht
      exact ⟨k, Nat.le_succ_of_le hk, hd⟩
    · obtain ⟨rfl, -⟩ := Activity.retraction.inj ht
      exact ⟨_, Nat.le_refl _, rfl⟩
  -- A decoration that is named anew has no retraction yet, so old and new do not meet.
  case alone =>
    intro t t' h due due' ht ht'
    rw [spawned] at ht ht'
    rcases getElem?_concat.mp ht with old | ⟨rfl, new⟩
    · rcases getElem?_concat.mp ht' with old' | ⟨rfl, new⟩
      · exact hl.alone t t' h due due' old old'
      · obtain ⟨rfl, -⟩ := Activity.retraction.inj new
        exact absurd old (hl.unspawned fresh s l)
    · rcases getElem?_concat.mp ht' with old | ⟨rfl, -⟩
      · obtain ⟨rfl, -⟩ := Activity.retraction.inj new
        exact absurd old (hl.unspawned fresh s l)
      · rfl

theorem change (hl : Lit w) (hw : Sound w) (fresh : Function.Injective w.conduct.decorationOf)
    (hc : Change a w w') : Lit w' := by
  by_cases ha : a = .reveal
  · subst ha
    cases hc with
    | highlight s l => exact hl.highlight fresh s l
  · by_cases ha' : a = .retraction
    · subst ha'
      cases hc with
      | retract ht => exact hl.retract ht
      | dropRetraction ht =>
        have := hw.aborted _ _ ht rfl
        cases this
    · exact hl.quiet hw hc ha ha'

theorem run (hl : Lit w) (hw : Sound w) (fresh : Function.Injective w.conduct.decorationOf)
    (moves : List Move) : Lit (w.run moves) := by
  have kept := hw.keeps_run (P := fun u => Lit u ∧ Function.Injective u.conduct.decorationOf)
    ⟨hl, fresh⟩ (fun hu hp h => ⟨hp.1.change hu hp.2 h, by rw [h.decorationOf_eq]; exact hp.2⟩) moves
  exact kept.1

theorem new (settings : Settings) (visible : List Url) (symbols : List Symbol) (conduct : Conduct) :
    Lit (.new settings visible symbols conduct) := by
  have unspawned (t : TaskNo) (h : Highlight) (due : Nat) :
      (Workspace.new settings visible symbols conduct).spawned[t]? ≠ some (.retraction h due) := by
    intro ht
    change ([] ++ [Activity.status [0] .starting])[t]? = _ at ht
    rcases getElem?_concat.mp ht with ht | ⟨-, ht⟩
    · simp at ht
    · cases ht
  -- The history starts with the notice of the settings, which paints nothing.
  have unpainted (past : List Entry)
      (hs : past <:+ (Workspace.new settings visible symbols conduct).history) (h : Highlight) :
      paintedIn past h = [] := by
    rcases List.suffix_cons_iff.mp hs with rfl | hs
    · rfl
    · rw [List.suffix_nil.mp hs]
      rfl
  constructor
  case once => exact fun past hs h h' hp => absurd (unpainted past hs h) hp
  case painted => exact fun h hp => absurd (unpainted _ List.suffix_rfl h) hp
  case range => exact fun h l ha => nomatch ha
  case active =>
    intro h
    constructor
    · intro ha
      cases ha
    · rintro ⟨⟨l, hr⟩, -⟩
      cases hr
  case own =>
    intro entry he h s l hevent
    obtain rfl := List.mem_singleton.mp he
    cases hevent
  case issued => exact fun t h due ht => absurd ht (unspawned t h due)
  case alone => exact fun t t' h due due' ht => absurd ht (unspawned t h due)

theorem oneHighlight (hl : Lit w) : OneHighlight w where
  once := hl.once
  painted h := by
    refine ⟨hl.painted h, fun ha => ?_⟩
    obtain ⟨⟨l, hr⟩, -⟩ := (hl.active h).mp ha
    simp [hl.range h l ha hr]
  range h ha := by
    obtain ⟨⟨l, hr⟩, -⟩ := (hl.active h).mp ha
    exact ⟨l, hr, hl.range h l ha hr⟩
  active := hl.active
  own entry he h s l hevent := by
    obtain ⟨t, ht⟩ := hl.own entry he h s l hevent
    -- Decorations are fresh, so no other retraction names this handle.
    exact ⟨t, ht, fun t' ht' => hl.alone t' t h _ _ ht' ht⟩

end Lit

/-- Among hosts that name each decoration anew, every run shows at most one highlight, and it is that
of the latest reveal until its own retraction. -/
theorem run_oneHighlight (settings : Settings) (visible : List Url) (symbols : List Symbol)
    (conduct : Conduct) (fresh : Function.Injective conduct.decorationOf) (moves : List Move) :
    OneHighlight ((Workspace.new settings visible symbols conduct).run moves) := by
  have sound := Sound.new settings visible symbols conduct
  have lit := Lit.new settings visible symbols conduct
  exact (lit.run sound fresh moves).oneHighlight

/-- Two reveals that overlap, the second one first; the retraction of the first one to paint comes
last. -/
def overlap (l l' : Location) : List Move :=
  [.request (.reveal l) none, .request (.reveal l') none, .step 1, .step 2, .step 2, .step 1,
    .step 2, .step 1, .wait 1000, .step 3]

/-- The retraction of a highlight that is not active any more leaves the active one. -/
theorem overlap_oneHighlight :
    let l : Location := ⟨⟨"file:///a.rs", by decide +kernel⟩, ⟨⟨0, 0⟩, ⟨0, 4⟩⟩⟩
    let w := (Workspace.new .default [] [] (.prompt false false)).run (overlap l l)
    w.revealer.active = some ⟨1, 2⟩ ∧ OneHighlight w :=
  ⟨by decide +kernel, run_oneHighlight _ _ _ _ (fun _ _ h => h) _⟩

end DiagramLinks
