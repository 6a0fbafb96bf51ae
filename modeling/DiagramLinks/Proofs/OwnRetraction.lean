import Mathlib.Data.List.Nodup
import DiagramLinks.Proofs.RevealCourse

namespace DiagramLinks

open Workspace

variable {a : Author} {w w' u : Workspace} {t : TaskNo} {h h' : Highlight} {s : Settings} {l : Location}
  {k : DecorationId} {due n : Nat} {past : List Entry} {m : Move} {r : Reveal}

def Event.creates? : Event → Option DecorationId
  | .called (.createDecoration decoration _) => some decoration
  | _ => none

/-- The decorations that were created. -/
def createdIn : List Entry → List DecorationId := seenIn Event.creates?

/-- The ranges that an event sets for a decoration, with the editor; no ranges clear it. -/
def Event.sets? (k : DecorationId) : Event → Option (EditorId × List Range)
  | .called (.paint editor decoration ranges) =>
    if decoration = k then some (editor, ranges) else none
  | _ => none

/-- All that was set for a decoration. -/
def setsIn (k : DecorationId) : List Entry → List (EditorId × List Range) := seenIn (Event.sets? k)

/-- What is set for a highlight that is painted and then cleared so many times, all in its editor. -/
def Highlight.coats (h : Highlight) (l : Location) (clears : Nat) : List (EditorId × List Range) :=
  (h.editor, [l.revealRange]) :: List.replicate clears (h.editor, [])

/-- A retraction fires: it clears its highlight in its editor, it takes its own handle from the active slot
and no other one, and it leaves all else. -/
structure Fires (w w' : Workspace) (t : TaskNo) (h : Highlight) : Prop where
  clears : w'.history = ⟨w.now, .called (.paint h.editor h.decoration [])⟩ :: w.history
  active : w'.revealer.active = if w.revealer.active = some h then none else w.revealer.active
  others : ∀ h', h' ≠ h → paintedIn w'.history h' = paintedIn w.history h'
  tasks : ∀ t' : TaskNo, t' ≠ t → w'.tasks[t']? = w.tasks[t']?

/-- How the highlights of a run are retracted. -/
structure Retracting (w : Workspace) : Prop where
  /-- The decorations that are created are those of the highlights, each another one. -/
  created : createdIn w.history = (highlightsIn w.history).map fun x => x.1.decoration
  distinct : (createdIn w.history).Nodup
  /-- No other decoration is ever painted or cleared. -/
  known : ∀ k, setsIn k w.history ≠ [] → k ∈ createdIn w.history
  /-- A decoration is painted once, in the editor in which it is cleared; until its retraction fires, it is
  cleared only when another reveal has painted. -/
  sets : ∀ h s l, (h, s, l) ∈ highlightsIn w.history → ∃ clears ≤ 2,
    setsIn h.decoration w.history = h.coats l clears ∧
      (w.isPending h → clears = if lastReveal? w.history = some (h, l) then 0 else 1) ∧
      (¬w.isPending h → 1 ≤ clears)
  /-- A retraction is ready when it is due; it clears its decoration once more, and that is the last
  time. -/
  fires : ∀ t h due, w.runs t (.retraction h due) → (w.isReady t = true ↔ due ≤ w.now) ∧
    (due ≤ w.now → Fires w (w.step t) t h ∧
      ∀ more, setsIn h.decoration ((w.step t).run more).history =
        setsIn h.decoration w.history ++ [(h.editor, [])])
  /-- The active highlight has its retraction before it. -/
  active : ∀ h, w.revealer.active = some h → w.isPending h

/-- A reveal of a run paints: it begins with a move, under the settings of that moment, and paints with a
step of its task in `u`, in which `h` is its highlight. -/
def Reveal.PaintsIn (r : Reveal) (start : Workspace) (moves : List Move) (u : Workspace)
    (h : Highlight) : Prop :=
  ∃ before m between after, moves = before ++ m :: (between ++ .step r.task :: after) ∧
    r.Begins (start.run before) m ∧ r.settings = (start.run before).revealer.settings ∧
    u = ((start.run before).move m).run between ∧ r.Lasts ((start.run before).move m) between ∧
    r.Paints (start.run before) m (between ++ .step r.task :: after) u h

/-- Every highlight of a run is that of a reveal and has one retraction, which is due after the time that
was set when the reveal began. Whatever happens, it waits until then, or has cleared the highlight since. -/
structure OwnRetraction (start : Workspace) (moves : List Move) : Prop extends
    Retracting (start.run moves) where
  own : ∀ n h s l, ⟨n, .highlighted h s l⟩ ∈ (start.run moves).history →
    ∃ (r : Reveal) (u : Workspace) (t : TaskNo), r.settings = s ∧ r.location = l ∧ u.now = n ∧
      r.PaintsIn start moves u h ∧
      Retracts (u.step r.task) (start.run moves) t h (n + s.duration.toNat) ∧
      ∀ (t' : TaskNo) h' due, h'.decoration = h.decoration →
        ((start.run moves).spawned[t']? = some (.retraction h' due) ↔
          t' = t ∧ h' = h ∧ due = n + s.duration.toNat)

theorem creates?_of_kind {e : Event} (kind : e.kind ≠ .decoration) : e.creates? = none := by
  unfold Event.creates?
  split
  · exact absurd rfl kind
  · rfl

theorem sets?_of_kind {e : Event} (kind : e.kind ≠ .decoration) : e.sets? k = none := by
  unfold Event.sets?
  split
  · exact absurd rfl kind
  · rfl

theorem highlights?_of_kind {e : Event} (kind : e.kind ≠ .decoration) : e.highlights? = none := by
  unfold Event.highlights?
  split
  · exact absurd rfl kind
  · rfl

theorem createdIn_highlight : createdIn (w.highlight s l).history =
    createdIn w.history ++ [(w.nextHighlight s l).decoration] := by
  rw [highlight_eq, createdIn, seenIn_append, seenIn_map]
  congr 1
  unfold highlightEvents clearing
  cases w.revealer.active <;> rfl

theorem highlightsIn_highlight : highlightsIn (w.highlight s l).history =
    highlightsIn w.history ++ [(w.nextHighlight s l, s, l)] := by
  rw [highlight_eq, highlightsIn, seenIn_append, seenIn_map]
  congr 1
  unfold highlightEvents clearing
  cases w.revealer.active <;> rfl

theorem setsIn_paint (editor : EditorId) (decoration : DecorationId) (ranges : List Range) :
    setsIn k (⟨n, .called (.paint editor decoration ranges)⟩ :: past) =
      setsIn k past ++ if decoration = k then [(editor, ranges)] else [] := by
  rw [setsIn, seenIn_cons]
  simp only [Event.sets?]
  split <;> rfl

theorem setsIn_blind {e : Entry} (blind : e.event.sets? k = none) :
    setsIn k (e :: past) = setsIn k past :=
  seenIn_cons_of_blind blind

/-- A reveal clears the active highlight and paints its own; other decorations it leaves alone. -/
theorem setsIn_highlight (other : ∀ h, w.revealer.active = some h → h.decoration ≠ k) :
    setsIn k (w.highlight s l).history = setsIn k w.history ++
      if (w.nextHighlight s l).decoration = k then [((w.nextHighlight s l).editor, [l.revealRange])]
      else [] := by
  rw [highlight_eq]
  unfold highlightEvents clearing
  cases active : w.revealer.active with
  | none =>
    simp only [Option.map_none, Option.toList_none, List.nil_append, List.map_cons, List.map_nil,
      List.cons_append]
    rw [setsIn_blind rfl, setsIn_paint, setsIn_blind rfl, setsIn_blind rfl]
  | some h =>
    simp only [Option.map_some, Option.toList_some, List.nil_append, List.map_cons, List.map_nil,
      List.cons_append]
    rw [setsIn_blind rfl, setsIn_paint, setsIn_paint, setsIn_blind rfl, setsIn_blind rfl,
      if_neg (other h active), List.append_nil]

theorem setsIn_highlight_active (active : w.revealer.active = some h)
    (ne : (w.nextHighlight s l).decoration ≠ h.decoration) :
    setsIn h.decoration (w.highlight s l).history =
      setsIn h.decoration w.history ++ [(h.editor, [])] := by
  rw [highlight_eq]
  unfold highlightEvents clearing
  simp only [active, Option.map_some, Option.toList_some, List.nil_append, List.map_cons, List.map_nil,
    List.cons_append]
  rw [setsIn_blind rfl, setsIn_paint, setsIn_paint, setsIn_blind rfl, setsIn_blind rfl, if_neg ne,
    if_pos rfl, List.append_nil]

theorem mem_highlightsIn : (h, s, l) ∈ highlightsIn past ↔ ∃ n, ⟨n, .highlighted h s l⟩ ∈ past := by
  simp only [highlightsIn, seenIn, List.mem_reverse, List.mem_filterMap]
  constructor
  · rintro ⟨⟨n, event⟩, he, same⟩
    cases event with
    | highlighted h' s' l' =>
      cases same
      exact ⟨n, he⟩
    | _ => cases same
  · rintro ⟨n, he⟩
    exact ⟨_, he, rfl⟩

theorem mem_of_suffix {later : List Entry} (sub : past <:+ later)
    (mem : (h, s, l) ∈ highlightsIn past) : (h, s, l) ∈ highlightsIn later := by
  obtain ⟨n, he⟩ := mem_highlightsIn.mp mem
  exact mem_highlightsIn.mpr ⟨n, sub.subset he⟩

theorem mem_of_lastReveal? (last : lastReveal? past = some (h, l)) :
    ∃ s, (h, s, l) ∈ highlightsIn past := by
  obtain ⟨⟨n, event⟩, he, same⟩ := List.exists_of_findSome?_eq_some last
  cases event with
  | highlighted h' s' l' =>
    cases same
    exact ⟨s', mem_highlightsIn.mpr ⟨n, he⟩⟩
  | _ => cases same

/-- What holds of the decorations of a run. -/
structure Tidy (w : Workspace) : Prop where
  created : createdIn w.history = (highlightsIn w.history).map fun x => x.1.decoration
  distinct : (createdIn w.history).Nodup
  numbered : ∀ k ∈ createdIn w.history, ∃ n ≤ w.lastId, k = w.conduct.decorationOf n
  known : ∀ k, setsIn k w.history ≠ [] → k ∈ createdIn w.history
  spawned : ∀ (t : TaskNo) h due, w.spawned[t]? = some (.retraction h due) →
    ∃ s l, (h, s, l) ∈ highlightsIn w.history
  sets : ∀ h s l, (h, s, l) ∈ highlightsIn w.history → ∃ clears ≤ 2,
    setsIn h.decoration w.history = h.coats l clears ∧
      (w.isPending h → clears = if w.revealer.active = some h then 0 else 1) ∧
      (¬w.isPending h → 1 ≤ clears)

/-- Either a reveal highlights, or a retraction fires, or highlights have no part in a change. -/
theorem Sound.highlight_cases (hw : Sound w) (hc : Change a w w') :
    (∃ s l, w' = w.highlight s l) ∨
      (∃ t h due, w.runs t (.retraction h due) ∧ w' = (w.retract h).finish t) ∨
      a ≠ .reveal ∧ a ≠ .retraction := by
  by_cases reveal : a = .reveal
  · subst reveal
    cases hc with
    | highlight s l => exact .inl ⟨s, l, rfl⟩
  · by_cases retraction : a = .retraction
    · subst retraction
      cases hc with
      | retract ht => exact .inr (.inl ⟨_, _, _, ht, rfl⟩)
      | dropRetraction ht =>
        have owned := hw.aborted _ _ ht rfl
        cases owned
    · exact .inr (.inr ⟨reveal, retraction⟩)

theorem Highlight.coats_succ (h : Highlight) (l : Location) (clears : Nat) :
    h.coats l clears ++ [(h.editor, [])] = h.coats l (clears + 1) := by
  rw [coats, coats, List.replicate_succ', List.cons_append]

namespace Tidy

/-- Each decoration belongs to one highlight. -/
theorem unique {h' : Highlight} {s' : Settings} {l' : Location} (ht : Tidy w)
    (mem : (h, s, l) ∈ highlightsIn w.history) (mem' : (h', s', l') ∈ highlightsIn w.history)
    (same : h.decoration = h'.decoration) : h = h' ∧ s = s' ∧ l = l' := by
  have distinct := ht.distinct
  rw [ht.created] at distinct
  have eq := List.inj_on_of_nodup_map distinct mem mem' same
  obtain ⟨rfl, rfl, rfl⟩ : h = h' ∧ s = s' ∧ l = l' := by simpa using eq
  exact ⟨rfl, rfl, rfl⟩

theorem mem_created (ht : Tidy w) (mem : (h, s, l) ∈ highlightsIn w.history) :
    h.decoration ∈ createdIn w.history := by
  rw [ht.created]
  exact List.mem_map_of_mem mem

theorem of_active (hl : Lit w) (active : w.revealer.active = some h) :
    ∃ s l, (h, s, l) ∈ highlightsIn w.history := by
  obtain ⟨⟨l, last⟩, -⟩ := (hl.active h).mp active
  obtain ⟨s, mem⟩ := mem_of_lastReveal? last
  exact ⟨s, l, mem⟩

/-- The decoration of the next highlight was not there before. -/
theorem unknown (ht : Tidy w) (fresh : Function.Injective w.conduct.decorationOf) (s : Settings)
    (l : Location) : (w.nextHighlight s l).decoration ∉ createdIn w.history := by
  intro mem
  obtain ⟨n, le, same⟩ := ht.numbered _ mem
  have next : w.lastId + 1 = n := fresh same
  omega

theorem decoration_of_active (ht : Tidy w) (hl : Lit w) (unknown : k ∉ createdIn w.history)
    (active : w.revealer.active = some h) : h.decoration ≠ k := by
  obtain ⟨s, l, mem⟩ := of_active hl active
  exact fun same => unknown (same ▸ ht.mem_created mem)

theorem unset (ht : Tidy w) (unknown : k ∉ createdIn w.history) : setsIn k w.history = [] := by
  by_contra set
  exact unknown (ht.known k set)

theorem sets_next (ht : Tidy w) (hl : Lit w) (fresh : Function.Injective w.conduct.decorationOf)
    (s : Settings) (l : Location) :
    setsIn (w.nextHighlight s l).decoration (w.highlight s l).history =
      (w.nextHighlight s l).coats l 0 := by
  have unknown := ht.unknown fresh s l
  rw [setsIn_highlight fun h => ht.decoration_of_active hl unknown, ht.unset unknown, if_pos rfl]
  rfl

/-- Of the highlights before, a reveal clears the one that is active, and no other one. -/
theorem sets_earlier {l' : Location} (ht : Tidy w) (hl : Lit w)
    (fresh : Function.Injective w.conduct.decorationOf) (mem : (h, s, l) ∈ highlightsIn w.history)
    (s' : Settings) : setsIn h.decoration (w.highlight s' l').history =
      setsIn h.decoration w.history ++ if w.revealer.active = some h then [(h.editor, [])] else [] := by
  have other : (w.nextHighlight s' l').decoration ≠ h.decoration :=
    fun same => ht.unknown fresh s' l' (same ▸ ht.mem_created mem)
  by_cases was : w.revealer.active = some h
  · rw [setsIn_highlight_active was other, if_pos was]
  · rw [setsIn_highlight fun h' active => ?_, if_neg other, if_neg was]
    obtain ⟨s'', l'', mem'⟩ := of_active hl active
    exact fun same => was ((ht.unique mem' mem same).1 ▸ active)

theorem quiet (ht : Tidy w) (hw : Sound w) (hc : Change a w w') (ha : a ≠ .reveal)
    (ha' : a ≠ .retraction) : Tidy w' := by
  obtain ⟨new, hn, kind⟩ := hc.quiet_history ha ha'
  obtain ⟨hactive, hid, hdecoration⟩ := hc.revealer_eq ha ha'
  have created : createdIn w'.history = createdIn w.history := by
    rw [hn]
    exact seenIn_append_of_blind fun e he => creates?_of_kind (kind e he)
  have highlights : highlightsIn w'.history = highlightsIn w.history := by
    rw [hn]
    exact seenIn_append_of_blind fun e he => highlights?_of_kind (kind e he)
  have sets (k : DecorationId) : setsIn k w'.history = setsIn k w.history := by
    rw [hn]
    exact seenIn_append_of_blind fun e he => sets?_of_kind (kind e he)
  have pending (h : Highlight) : w'.isPending h ↔ w.isPending h := by
    simp only [isPending, hw.retraction_iff hc ha ha']
  constructor
  case created => rw [created, highlights, ht.created]
  case distinct => exact created ▸ ht.distinct
  case numbered =>
    intro k hk
    obtain ⟨n, le, same⟩ := ht.numbered k (created ▸ hk)
    exact ⟨n, Nat.le_trans le hid, hdecoration ▸ same⟩
  case known =>
    intro k hk
    rw [sets] at hk
    exact created ▸ ht.known k hk
  case spawned =>
    intro t h due hs
    rw [highlights]
    exact ht.spawned t h due ((Sound.retraction_spawned_iff hc ha).mp hs)
  case sets =>
    intro h s l mem
    rw [sets, pending, hactive]
    exact ht.sets h s l (highlights ▸ mem)

theorem highlight (ht : Tidy w) (hl : Lit w) (fresh : Function.Injective w.conduct.decorationOf)
    (s : Settings) (l : Location) : Tidy (w.highlight s l) := by
  have unknown := ht.unknown fresh s l
  constructor
  case created => rw [createdIn_highlight, highlightsIn_highlight, ht.created, List.map_append]; rfl
  case distinct =>
    rw [createdIn_highlight, ← List.concat_eq_append]
    exact ht.distinct.concat unknown
  case numbered =>
    intro k hk
    rw [createdIn_highlight] at hk
    rw [highlight_eq]
    rcases List.mem_append.mp hk with hk | hk
    · obtain ⟨n, le, same⟩ := ht.numbered k hk
      exact ⟨n, Nat.le_succ_of_le le, same⟩
    · exact ⟨_, Nat.le_refl _, List.mem_singleton.mp hk⟩
  case known =>
    intro k hk
    rw [createdIn_highlight]
    by_contra out
    simp only [List.mem_append, List.mem_singleton, not_or] at out
    apply hk
    rw [setsIn_highlight fun h => ht.decoration_of_active hl out.1, if_neg (Ne.symm out.2),
      List.append_nil, ht.unset out.1]
  case spawned =>
    intro t h due hs
    rw [highlightsIn_highlight]
    rw [highlight_eq] at hs
    simp only [Workspace.spawned, List.map_append, List.map_cons, List.map_nil] at hs
    rcases getElem?_concat.mp hs with hs | ⟨-, hs⟩
    · obtain ⟨s', l', mem⟩ := ht.spawned t h due hs
      exact ⟨s', l', List.mem_append_left _ mem⟩
    · obtain ⟨rfl, -⟩ := Activity.retraction.inj hs
      exact ⟨s, l, List.mem_append_right _ List.mem_cons_self⟩
  case sets =>
    intro h s' l' mem
    have active : (w.highlight s l).revealer.active = some (w.nextHighlight s l) := by
      rw [highlight_eq]
    rw [highlightsIn_highlight] at mem
    rw [active, Lit.pending_highlight]
    rcases List.mem_append.mp mem with mem | mem
    · have ne : w.nextHighlight s l ≠ h := fun same => unknown (same ▸ ht.mem_created mem)
      have waits : w.isPending h ∨ h = w.nextHighlight s l ↔ w.isPending h := or_iff_left (Ne.symm ne)
      obtain ⟨clears, le, set, pending, cleared⟩ := ht.sets h s' l' mem
      rw [ht.sets_earlier hl fresh mem, set, if_neg fun same => ne (Option.some.inj same), waits]
      by_cases was : w.revealer.active = some h
      · -- It was active, so this reveal is the first to clear it.
        obtain rfl : clears = 0 := (pending ((hl.active h).mp was).2).trans (if_pos was)
        rw [if_pos was, h.coats_succ]
        exact ⟨1, by omega, rfl, fun _ => rfl, fun _ => Nat.le_refl 1⟩
      · rw [if_neg was, List.append_nil]
        rw [if_neg was] at pending
        exact ⟨clears, le, rfl, pending, cleared⟩
    · obtain ⟨rfl, rfl, rfl⟩ : h = w.nextHighlight s l ∧ s' = s ∧ l' = l := by simpa using mem
      rw [ht.sets_next hl fresh, if_pos rfl]
      exact ⟨0, by omega, rfl, fun _ => rfl, fun gone => absurd (.inr rfl) gone⟩

theorem retract (ht : Tidy w) (hl : Lit w) (runs : w.runs t (.retraction h due)) :
    Tidy ((w.retract h).finish t) := by
  have hc := Change.retract runs
  have history : ((w.retract h).finish t).history =
      ⟨w.now, .called (.paint h.editor h.decoration [])⟩ :: w.history := by
    rw [retract_eq]
    rfl
  have active : ((w.retract h).finish t).revealer.active = w.revealer.active.filter (· ≠ h) := by
    rw [retract_eq]
    rfl
  have created : createdIn ((w.retract h).finish t).history = createdIn w.history := by
    rw [history]
    exact seenIn_cons_of_blind rfl
  have highlights : highlightsIn ((w.retract h).finish t).history = highlightsIn w.history := by
    rw [history]
    exact seenIn_cons_of_blind rfl
  obtain ⟨s₀, l₀, own⟩ := ht.spawned t h due (spawned_of_task runs)
  constructor
  case created => rw [created, highlights, ht.created]
  case distinct => exact created ▸ ht.distinct
  case numbered =>
    rw [created, retract_eq]
    exact ht.numbered
  case known =>
    intro k hk
    rw [history, setsIn_paint] at hk
    rw [created]
    by_cases same : h.decoration = k
    · exact same ▸ ht.mem_created own
    · rw [if_neg same, List.append_nil] at hk
      exact ht.known k hk
  case spawned =>
    intro t' h' due' hs
    rw [highlights]
    exact ht.spawned t' h' due' ((Sound.retraction_spawned_iff hc (by simp)).mp hs)
  case sets =>
    intro h' s l mem
    rw [highlights] at mem
    obtain ⟨clears, le, set, pending, cleared⟩ := ht.sets h' s l mem
    rw [history, setsIn_paint, active, hl.pending_retract runs, set]
    -- Its own highlight is cleared once more. Every other one keeps its sets, since its decoration differs.
    by_cases same : h = h'
    · subst same
      have at_most : clears ≤ 1 := by
        rw [pending ⟨t, due, runs⟩]
        split <;> omega
      rw [if_pos rfl, h.coats_succ]
      exact ⟨clears + 1, by omega, rfl, fun waits => absurd rfl waits.2, fun _ => by omega⟩
    · have other : h.decoration ≠ h'.decoration := fun eq => same (ht.unique own mem eq).1
      rw [if_neg other, List.append_nil]
      refine ⟨clears, le, rfl, fun waits => ?_, fun gone => cleared fun waits => gone ⟨waits, Ne.symm same⟩⟩
      simpa [Option.filter_eq_some_iff, Ne.symm same] using pending waits.1

theorem change (ht : Tidy w) (hl : Lit w) (hw : Sound w)
    (fresh : Function.Injective w.conduct.decorationOf) (hc : Change a w w') : Tidy w' := by
  rcases hw.highlight_cases hc with ⟨s, l, rfl⟩ | ⟨t, h, due, runs, rfl⟩ | ⟨reveal, retraction⟩
  · exact ht.highlight hl fresh s l
  · exact ht.retract hl runs
  · exact ht.quiet hw hc reveal retraction

theorem new (settings : Settings) (visible : List Url) (symbols : List Symbol) (conduct : Conduct) :
    Tidy (.new settings visible symbols conduct) := by
  constructor
  case created => rfl
  case distinct => exact List.nodup_nil
  case numbered => exact fun k hk => nomatch hk
  case known => exact fun k hk => absurd rfl hk
  case spawned =>
    intro t h due ht
    change ([] ++ [Activity.status [0] .starting])[t]? = _ at ht
    rcases getElem?_concat.mp ht with ht | ⟨-, ht⟩
    · simp at ht
    · cases ht
  case sets => exact fun h s l mem => nomatch mem

/-- Once its retraction has fired, a decoration is neither painted nor cleared any more. -/
theorem sealed_change (ht : Tidy w) (hl : Lit w) (hw : Sound w)
    (fresh : Function.Injective w.conduct.decorationOf)
    (mem : (h, s, l) ∈ highlightsIn w.history) (gone : ¬w.isPending h) (hc : Change a w w') :
    setsIn h.decoration w'.history = setsIn h.decoration w.history ∧ ¬w'.isPending h := by
  -- Another highlight is painted, another retraction fires, or neither. No decoration is shared.
  rcases hw.highlight_cases hc with ⟨s', l', rfl⟩ | ⟨t, h', due, runs, rfl⟩ | ⟨reveal, retraction⟩
  · have other : (w.nextHighlight s' l').decoration ≠ h.decoration :=
      fun same => ht.unknown fresh s' l' (same ▸ ht.mem_created mem)
    constructor
    · rw [setsIn_highlight fun h' active => ?_, if_neg other, List.append_nil]
      obtain ⟨s'', l'', mem'⟩ := of_active hl active
      intro same
      obtain ⟨rfl, -⟩ := ht.unique mem' mem same
      exact gone ((hl.active h').mp active).2
    · rw [Lit.pending_highlight]
      rintro (waits | rfl)
      · exact gone waits
      · exact other rfl
  · obtain ⟨s'', l'', mem'⟩ := ht.spawned t h' due (spawned_of_task runs)
    have other : h'.decoration ≠ h.decoration := by
      intro same
      obtain ⟨rfl, -⟩ := ht.unique mem' mem same
      exact gone ⟨t, due, runs⟩
    constructor
    · rw [retract_eq]
      exact (setsIn_paint _ _ _).trans (by rw [if_neg other, List.append_nil])
    · rw [hl.pending_retract runs]
      exact fun waits => gone waits.1
  · obtain ⟨new, hn, kind⟩ := hc.quiet_history reveal retraction
    constructor
    · rw [hn]
      exact seenIn_append_of_blind fun e he => sets?_of_kind (kind e he)
    · simpa only [isPending, hw.retraction_iff hc reveal retraction] using gone

theorem sealed_run (ht : Tidy w) (hl : Lit w) (hw : Sound w)
    (fresh : Function.Injective w.conduct.decorationOf)
    (mem : (h, s, l) ∈ highlightsIn w.history) (gone : ¬w.isPending h) (more : List Move) :
    setsIn h.decoration (w.run more).history = setsIn h.decoration w.history := by
  have kept := hw.keeps_run (P := fun u => (Lit u ∧ Function.Injective u.conduct.decorationOf ∧ Tidy u) ∧
    (h, s, l) ∈ highlightsIn u.history ∧ ¬u.isPending h ∧
      setsIn h.decoration u.history = setsIn h.decoration w.history)
    ⟨⟨hl, fresh, ht⟩, mem, gone, rfl⟩ ?_ more
  · exact kept.2.2.2
  · rintro a u u' hu ⟨⟨hl, fresh, ht⟩, mem, gone, same⟩ hc
    obtain ⟨same', gone'⟩ := ht.sealed_change hl hu fresh mem gone hc
    obtain ⟨new, hn, -⟩ := hc.history_eq
    exact ⟨⟨hl.change hu fresh hc, hc.decorationOf_eq ▸ fresh, ht.change hl hu fresh hc⟩,
      mem_of_suffix (hn ▸ List.suffix_append new _) mem, gone', same'.trans same⟩

theorem run (ht : Tidy w) (hl : Lit w) (hw : Sound w)
    (fresh : Function.Injective w.conduct.decorationOf) (moves : List Move) :
    Lit (w.run moves) ∧ Function.Injective (w.run moves).conduct.decorationOf ∧
      Tidy (w.run moves) :=
  hw.keeps_run (P := fun u => Lit u ∧ Function.Injective u.conduct.decorationOf ∧ Tidy u)
    ⟨hl, fresh, ht⟩ (fun hu ⟨hl, fresh, ht⟩ hc =>
      ⟨hl.change hu fresh hc, hc.decorationOf_eq ▸ fresh, ht.change hl hu fresh hc⟩) moves

theorem step_due (runs : w.runs t (.retraction h due)) (now : due ≤ w.now) :
    w.step t = (w.retract h).finish t := by
  have ready : w.isReady t = true := by simp [isReady, runs, canRun, now]
  simp [Workspace.step, runs, ready]

theorem fires (runs : w.runs t (.retraction h due)) (now : due ≤ w.now) :
    Fires w (w.step t) t h := by
  rw [step_due runs now, retract_eq]
  constructor
  case clears => rfl
  case active =>
    show w.revealer.active.filter (· ≠ h) = _
    cases w.revealer.active with
    | none => rfl
    | some h' => by_cases same : h' = h <;> simp [same]
  case others =>
    intro h' ne
    exact (paintedIn_clear w.now h).trans (if_neg (Ne.symm ne))
  case tasks => exact fun t' ne => List.getElem?_modify_ne _ _ (Ne.symm ne)

theorem retracting (ht : Tidy w) (hl : Lit w) (hw : Sound w)
    (fresh : Function.Injective w.conduct.decorationOf) : Retracting w := by
  constructor
  case created => exact ht.created
  case distinct => exact ht.distinct
  case known => exact ht.known
  case sets =>
    intro h s l mem
    obtain ⟨clears, le, set, pending, cleared⟩ := ht.sets h s l mem
    refine ⟨clears, le, set, fun waits => ?_, cleared⟩
    -- A highlight that waits for its retraction is active just when it is that of the latest reveal.
    have active : w.revealer.active = some h ↔ lastReveal? w.history = some (h, l) := by
      rw [hl.active h]
      constructor
      · rintro ⟨⟨l', last⟩, -⟩
        obtain ⟨s', mem'⟩ := mem_of_lastReveal? last
        obtain ⟨-, -, rfl⟩ := ht.unique mem mem' rfl
        exact last
      · exact fun last => ⟨⟨l, last⟩, waits⟩
    rw [pending waits]
    simp only [active]
  case fires =>
    intro t h due runs
    refine ⟨by simp [isReady, runs, canRun], fun now => ?_⟩
    have fires := Tidy.fires runs now
    refine ⟨fires, fun more => ?_⟩
    obtain ⟨s, l, mem⟩ := ht.spawned t h due (spawned_of_task runs)
    obtain ⟨lit, fresh', tidy⟩ := ht.run hl hw fresh [.step t]
    have gone : ¬(w.step t).isPending h := by
      rw [step_due runs now, hl.pending_retract runs]
      exact fun waits => waits.2 rfl
    have mem' : (h, s, l) ∈ highlightsIn (w.step t).history :=
      mem_of_suffix (fires.clears ▸ List.suffix_cons _ _) mem
    have last : setsIn h.decoration ((w.step t).run more).history = _ :=
      sealed_run tidy lit (hw.move (.step t)) fresh' mem' gone more
    rw [last]
    show setsIn h.decoration (w.step t).history = _
    rw [fires.clears, setsIn_paint, if_pos rfl]
  case active => exact fun h active => ((hl.active h).mp active).2

end Tidy

/-- In `w` a reveal is about to paint, with the next step of its task. -/
structure Reveal.Paintable (r : Reveal) (w : Workspace) : Prop where
  rests : r.RestsIn r.showing w
  going : ¬r.IsAborted w
  ready : w.isReady r.task = true
  answer : (w.answer r.showing).2 = .over (.ok ())

theorem Sound.highlighted_move (hw : Sound w)
    (mem : ⟨n, .highlighted h s l⟩ ∈ (w.move m).history) :
    ⟨n, .highlighted h s l⟩ ∈ w.history ∨ ∃ r : Reveal, m = .step r.task ∧ r.settings = s ∧
      r.location = l ∧ w.now = n ∧ h = w.nextHighlight s l ∧ r.Paintable w := by
  rcases move_aside w m with ⟨new, hn, aside⟩ | ⟨t, b, rfl, ht, work, ready⟩
  · rw [hn] at mem
    rcases List.mem_append.mp mem with mem | mem
    · cases aside _ mem
    · exact .inl mem
  by_cases old : ⟨n, .highlighted h s l⟩ ∈ w.history
  · exact .inl old
  right
  change _ ∈ (w.step t).history at mem
  obtain ⟨new, b', ended, step, history, -⟩ := hw.step_work ht work ready
  cases hb : b.reveals? with
  | none =>
    rw [history] at mem
    obtain ⟨-, he⟩ := mem_map_mk.mp ((List.mem_append.mp mem).resolve_right old)
    cases step.silent hb _ he
  | some reveal =>
    obtain ⟨a, ha, -⟩ := Option.bind_eq_some_iff.mp ((reveals?_eq b).symm.trans hb)
    obtain ⟨new, telling, go⟩ := hw.step_goes ht ha ready
    rw [go.history] at mem
    obtain ⟨rfl, he⟩ := mem_map_mk.mp ((List.mem_append.mp mem).resolve_right old)
    rcases List.mem_append.mp he with he | he
    · cases go.tells _ he
    · obtain ⟨rfl, rfl, answer, -⟩ := go.answers.of_highlighted he
      refine ⟨⟨t, s, l⟩, rfl, rfl, rfl, rfl, rfl, ?_, ?_, ready, answer⟩
      · exact Reveal.restsIn_iff.mpr ⟨b, false, ht, ha⟩
      · rintro ⟨x, hx, aborted⟩
        obtain rfl := Option.some.inj (ht.symm.trans hx)
        cases aborted

/-- A highlight of a run was there from the start, or a step of a reveal has painted it. -/
theorem Sound.highlighted_run (hw : Sound w) {moves : List Move}
    (mem : ⟨n, .highlighted h s l⟩ ∈ (w.run moves).history) :
    ⟨n, .highlighted h s l⟩ ∈ w.history ∨ ∃ (r : Reveal) (before after : List Move),
      moves = before ++ .step r.task :: after ∧ r.settings = s ∧ r.location = l ∧
      (w.run before).now = n ∧ h = (w.run before).nextHighlight s l ∧ r.Paintable (w.run before) := by
  induction moves generalizing w with
  | nil => exact .inl mem
  | cons m moves ih =>
    rcases ih (hw.move m) mem with old | ⟨r, before, after, rfl, paints⟩
    · rcases hw.highlighted_move old with old | ⟨r, rfl, paints⟩
      · exact .inl old
      · exact .inr ⟨r, [], moves, rfl, paints⟩
    · exact .inr ⟨r, m :: before, after, rfl, paints⟩

/-- A reveal that is under way in a run was so from the start, or has begun in the run. -/
theorem Reveal.Underway.begun {moves : List Move} (h : r.Underway (w.run moves)) :
    r.Underway w ∨ ∃ before m between, moves = before ++ m :: between ∧ r.Begins (w.run before) m ∧
      r.Lasts ((w.run before).move m) between := by
  induction moves using List.reverseRecOn with
  | nil => exact .inl h
  | append_singleton moves m ih =>
    by_cases earlier : r.Underway (w.run moves)
    · rcases ih earlier with start | ⟨before, m', between, rfl, begins, lasts⟩
      · exact .inl start
      · right
        have same : w.run (before ++ m' :: between) = ((w.run before).move m').run between :=
          run_append w before (m' :: between)
        refine ⟨before, m', between ++ [m], by simp, begins, Reveal.lasts_append.mpr ⟨lasts, ?_⟩⟩
        rw [run_concat, same] at h
        exact ⟨same ▸ earlier, h⟩
    · rw [run_concat] at h
      exact .inr ⟨moves, m, [], rfl, ⟨earlier, h⟩, h⟩

/-- A highlight that comes from no earlier run has a reveal that painted it, and the retraction that this
reveal scheduled. -/
theorem Sound.painted_run (hw : Sound w) {moves : List Move}
    (mem : ⟨n, .highlighted h s l⟩ ∈ (w.run moves).history)
    (unpainted : ⟨n, .highlighted h s l⟩ ∉ w.history) (idle : ∀ r : Reveal, ¬r.Underway w) :
    ∃ (r : Reveal) (u : Workspace) (t : TaskNo), r.settings = s ∧ r.location = l ∧ u.now = n ∧
      r.PaintsIn w moves u h ∧
      Retracts (u.step r.task) (w.run moves) t h (n + s.duration.toNat) := by
  obtain ⟨r, prior, after, rfl, rfl, rfl, rfl, rfl, paintable⟩ :=
    (hw.highlighted_run mem).resolve_left unpainted
  have underway : r.Underway (w.run prior) := .inr paintable.rests
  obtain ⟨before, m, between, rfl, begins, lasts⟩ := underway.begun.resolve_left (idle r)
  have split : w.run (before ++ m :: between) = ((w.run before).move m).run between :=
    run_append w before (m :: between)
  have sound := hw.run before
  have gone := paintable.rests.over (hw.run _) (.inr rfl) paintable.ready
    (.inr ⟨_, paintable.answer⟩)
  cases begins.ending sound split lasts paintable.rests gone after with
  | drops aborted reached none => exact absurd aborted paintable.going
  | fails going answer reached failed =>
    rw [paintable.answer] at answer
    cases answer
  | shows going answer paints =>
    obtain ⟨t, -, runs⟩ := paints.retracts
    refine ⟨r, w.run (before ++ m :: between), t, rfl, rfl, rfl, ?_, ?_⟩
    · exact ⟨before, m, between, after, by simp, begins, (begins.allOrNothing sound).configured, split,
        lasts, paints⟩
    · have rest : w.run (before ++ m :: between ++ .step r.task :: after) =
          ((w.run (before ++ m :: between)).step r.task).run after := run_append w _ _
      have next : Sound ((w.run (before ++ m :: between)).step r.task) := (hw.run _).move (.step r.task)
      rw [rest]
      exact next.retracts_run (.inl runs) List.suffix_rfl after

theorem Tidy.only (ht : Tidy w) (hl : Lit w) (mem : (h, s, l) ∈ highlightsIn w.history)
    (own : w.spawned[t]? = some (.retraction h due)) {t' : TaskNo} {due' : Nat}
    (same : h'.decoration = h.decoration) :
    w.spawned[t']? = some (.retraction h' due') ↔ t' = t ∧ h' = h ∧ due' = due := by
  constructor
  · intro other
    obtain ⟨s', l', mem'⟩ := ht.spawned t' h' due' other
    obtain ⟨rfl, -⟩ := ht.unique mem' mem same
    obtain rfl := hl.alone t' t h' due' due other own
    obtain ⟨-, rfl⟩ := Activity.retraction.inj (Option.some.inj (other.symm.trans own))
    exact ⟨rfl, rfl, rfl⟩
  · rintro ⟨rfl, rfl, rfl⟩
    exact own

theorem paintedAfter_cons (e : Entry) :
    paintedAfter (e :: past) k = (Workspace.paintOf? k e).getD (paintedAfter past k) := by
  unfold paintedAfter
  rw [List.findSome?_cons]
  cases Workspace.paintOf? k e <;> rfl

theorem paintOf?_eq {e : Entry}
    (alone : ∀ x, e.event.sets? h.decoration = some x → x.1 = h.editor) :
    Workspace.paintOf? h.decoration e = e.event.paintOf? h := by
  obtain ⟨n, event⟩ := e
  cases event with
  | called call =>
    cases call with
    | paint editor decoration ranges =>
      by_cases same : decoration = h.decoration
      · have here : editor = h.editor := alone (editor, ranges) (by simp [Event.sets?, same])
        simp [Workspace.paintOf?, Event.paintOf?, same, here]
      · have other : (⟨editor, decoration⟩ : Highlight) ≠ h := fun eq => same (eq ▸ rfl)
        simp [Workspace.paintOf?, Event.paintOf?, same, other]
    | _ => rfl
  | _ => rfl

/-- What is painted with a decoration is what is painted through its one highlight. -/
theorem paintedAfter_eq_paintedIn (alone : ∀ x ∈ setsIn h.decoration past, x.1 = h.editor) :
    paintedAfter past h.decoration = paintedIn past h := by
  induction past with
  | nil => rfl
  | cons e past ih =>
    have split : setsIn h.decoration (e :: past) =
        setsIn h.decoration past ++ (e.event.sets? h.decoration).toList := seenIn_cons _ e past
    simp only [split, List.mem_append, Option.mem_toList] at alone
    rw [paintedAfter_cons, paintedIn_cons, ih fun x mem => alone x (.inl mem),
      paintOf?_eq fun x here => alone x (.inr here)]

theorem Tidy.painted (ht : Tidy w) (mem : (h, s, l) ∈ highlightsIn w.history) :
    w.painted h.decoration = paintedIn w.history h := by
  obtain ⟨clears, -, set, -⟩ := ht.sets h s l mem
  apply paintedAfter_eq_paintedIn
  intro x hx
  rw [set, Highlight.coats, List.mem_cons, List.mem_replicate] at hx
  rcases hx with rfl | ⟨-, rfl⟩ <;> rfl

theorem colors_eq (w : Workspace) : w.colors.map Prod.fst = createdIn w.history := by
  rw [colors, timeline, createdIn, seenIn, List.map_reverse, List.map_filterMap]
  congr 2
  funext entry
  obtain ⟨n, event⟩ := entry
  cases event with
  | called call => cases call <;> rfl
  | _ => rfl

theorem Tidy.painted_iff (ht : Tidy w) (hl : Lit w) (known : k ∈ createdIn w.history) :
    w.painted k ≠ [] ↔ ∃ h, w.revealer.active = some h ∧ h.decoration = k := by
  rw [ht.created] at known
  obtain ⟨⟨h, s, l⟩, mem, rfl⟩ := List.mem_map.mp known
  rw [ht.painted mem]
  constructor
  · exact fun shows => ⟨h, hl.painted h shows, rfl⟩
  · rintro ⟨h', active, same⟩
    obtain ⟨s', l', mem'⟩ := Tidy.of_active hl active
    obtain ⟨rfl, -⟩ := ht.unique mem' mem same
    exact (hl.oneHighlight.painted h').mpr active

/-- The decorations that show anything are that of the active highlight. -/
theorem Tidy.paintedDecorations (ht : Tidy w) (hl : Lit w) :
    w.paintedDecorations.map Prod.fst = w.revealer.active.toList.map Highlight.decoration := by
  have views : w.paintedDecorations.map Prod.fst =
      (createdIn w.history).filter fun k => !(w.painted k).isEmpty := by
    rw [← colors_eq, List.filter_map]
    rfl
  have shows {k : DecorationId} (known : k ∈ createdIn w.history) :
      (!(w.painted k).isEmpty) = true ↔ ∃ h, w.revealer.active = some h ∧ h.decoration = k := by
    rw [← ht.painted_iff hl known]
    simp
  rw [views]
  cases active : w.revealer.active with
  | none =>
    apply List.filter_eq_nil_iff.mpr
    intro k known painted
    obtain ⟨h, here, -⟩ := (shows known).mp painted
    simp [active] at here
  | some h =>
    obtain ⟨s, l, mem⟩ := Tidy.of_active hl active
    have only : ∀ k ∈ createdIn w.history,
        (!(w.painted k).isEmpty) = decide (k = h.decoration) := by
      intro k known
      rw [Bool.eq_iff_iff, shows known, decide_eq_true_iff, active]
      simp [eq_comm]
    rw [List.filter_congr only, List.filter_eq,
      List.count_eq_one_of_mem ht.distinct (ht.mem_created mem)]
    rfl

/-- Among hosts that name each decoration anew, every highlight of every run has a retraction of its own,
due after the time that was set when its reveal began; it clears this highlight and no other one. -/
theorem run_ownRetraction (settings : Settings) (visible : List Url) (symbols : List Symbol)
    (conduct : Conduct) (fresh : Function.Injective conduct.decorationOf) (moves : List Move) :
    OwnRetraction (Workspace.new settings visible symbols conduct) moves := by
  have sound := Sound.new settings visible symbols conduct
  have lit := Lit.new settings visible symbols conduct
  have tidy := Tidy.new settings visible symbols conduct
  obtain ⟨lit', fresh', tidy'⟩ := tidy.run lit sound fresh moves
  refine ⟨tidy'.retracting lit' (sound.run moves) fresh', fun n h s l mem => ?_⟩
  have unpainted : ⟨n, .highlighted h s l⟩ ∉ (Workspace.new settings visible symbols conduct).history := by
    intro old
    cases List.mem_singleton.mp old
  have idle (r : Reveal) : ¬r.Underway (Workspace.new settings visible symbols conduct) := by
    intro underway
    obtain ⟨a, -, rests⟩ := underway.rests
    obtain ⟨b, aborted, hx, hb⟩ := Reveal.restsIn_iff.mp rests
    change ([] ++ [_])[r.task]? = _ at hx
    rcases getElem?_concat.mp hx with hx | ⟨-, hx⟩
    · simp at hx
    · cases hx
      cases hb
  obtain ⟨r, u, t, hs, hl, hn, paints, retracts⟩ := sound.painted_run mem unpainted idle
  refine ⟨r, u, t, hs, hl, hn, paints, retracts, fun t' h' due same => ?_⟩
  apply tidy'.only lit' (mem_highlightsIn.mpr ⟨n, mem⟩) _ same
  rcases retracts with runs | ⟨ended, -⟩
  · exact spawned_of_task runs
  · exact spawned_of_task ended

/-- Two reveals overlap. The highlight of the first one to paint is cleared by the other one and by its own
retraction, which leaves the other one active. -/
theorem overlap_ownRetraction :
    let l : Location := ⟨⟨"file:///overlap.rs", by decide +kernel⟩, ⟨⟨0, 0⟩, ⟨0, 4⟩⟩⟩
    let start := Workspace.new .default [] [] (.prompt false false)
    OwnRetraction start (overlap l l) ∧ (start.run (overlap l l)).revealer.active = some ⟨1, 2⟩ ∧
      setsIn 1 (start.run (overlap l l)).history = [(1, [l.revealRange]), (1, []), (1, [])] ∧
      setsIn 2 (start.run (overlap l l)).history = [(1, [l.revealRange])] :=
  ⟨run_ownRetraction _ _ _ _ (fun _ _ h => h) _, by decide +kernel, by decide +kernel,
    by decide +kernel⟩

/-- Among hosts that name each decoration anew, what shows by decoration is what shows by highlight. -/
theorem run_paintedDecorations (settings : Settings) (visible : List Url) (symbols : List Symbol)
    (conduct : Conduct) (fresh : Function.Injective conduct.decorationOf) (moves : List Move)
    {w : Workspace} (run : w = (Workspace.new settings visible symbols conduct).run moves) :
    w.paintedDecorations.map Prod.fst = w.revealer.active.toList.map Highlight.decoration ∧
      ∀ h s l, (h, s, l) ∈ highlightsIn w.history → w.painted h.decoration = paintedIn w.history h := by
  obtain ⟨lit, -, tidy⟩ := (Tidy.new settings visible symbols conduct).run
    (Lit.new settings visible symbols conduct) (Sound.new settings visible symbols conduct) fresh moves
  subst run
  exact ⟨tidy.paintedDecorations lit, fun h s l mem => tidy.painted mem⟩

end DiagramLinks
