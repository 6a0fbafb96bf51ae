import DiagramLinks.Proofs.Frame
import DiagramLinks.Proofs.Run

namespace DiagramLinks

open Workspace

variable {a : Author} {authors : List Author} {w w' : Workspace} {t : TaskNo} {d : DiagramNo}

/-- Which tasks there are: the status indicator's first, no more than one session for a diagram, and
selection modes below sessions. -/
structure Roster (spawned : List Activity) (diagrams : Nat) : Prop where
  status : ∀ (t : TaskNo) token,
    spawned[t]? = some (.status token .starting) ↔ t = 0 ∧ token = [0]
  session : ∀ (t : TaskNo) d token,
    spawned[t]? = some (.session d token .starting) → token = [0] ∧ d < diagrams
  unique : ∀ (t t' : TaskNo) d, spawned[t]? = some (.session d [0] .starting) →
    spawned[t']? = some (.session d [0] .starting) → t = t'
  mode : ∀ (t : TaskNo) d token,
    spawned[t]? = some (.selectionMode d token .starting) → (∃ k, token = [0, k]) ∧ d < diagrams

/-- Numbers point to something, and scopes track only what they own. -/
structure Sound (w : Workspace) : Prop where
  roster : Roster w.spawned w.diagrams.length
  aborted : ∀ (t : TaskNo) x, w.tasks[t]? = some x → x.aborted = true →
    Author.service.owns x.activity = true
  store : ∀ x ∈ w.diagrams, x.store < w.stores.length
  tracked : ∀ (d : DiagramNo) x, w.diagrams[d]? = some x → ∀ t ∈ x.scope.tracked,
    w.spawned[t]? = some (.session d [0] .starting)
  cancelled : ∀ x ∈ w.diagrams, ∀ token ∈ x.scope.cancelled, token = [] ∨ token = [0]
  own : ∀ t ∈ w.service.scope.tracked, t = 0
  ended : ∀ token ∈ w.service.scope.cancelled, token = []
  registry : ∀ entry ∈ w.service.registry, entry.2 < w.diagrams.length
  active : ∀ d, w.service.active.value = some d → d < w.diagrams.length

theorem getElem?_concat {α : Type} {l : List α} {b c : α} {i : Nat} :
    (l ++ [b])[i]? = some c ↔ l[i]? = some c ∨ i = l.length ∧ b = c := by
  rcases Nat.lt_trichotomy i l.length with h | h | h
  · simp [List.getElem?_append_left h, Nat.ne_of_lt h]
  · simp [h]
  · rw [List.getElem?_append_right (Nat.le_of_lt h), List.getElem?_eq_none (by simp; omega),
      List.getElem?_eq_none (Nat.le_of_lt h)]
    simp [Nat.ne_of_gt h]

theorem spawned_of_task {x : Task} (ht : w.tasks[t]? = some x) :
    w.spawned[t]? = some x.activity.origin := by
  simp [spawned, ht]

namespace Roster

variable {spawned : List Activity} {n m : Nat}

theorem mono (h : Roster spawned n) (le : n ≤ m) : Roster spawned m where
  status := h.status
  session t d token ht := ⟨(h.session t d token ht).1, Nat.lt_of_lt_of_le (h.session t d token ht).2 le⟩
  unique := h.unique
  mode t d token ht := ⟨(h.mode t d token ht).1, Nat.lt_of_lt_of_le (h.mode t d token ht).2 le⟩

theorem concat {b : Activity} (h : Roster spawned n) (noStatus : ∀ token, b ≠ .status token .starting)
    (noSession : ∀ d token, b ≠ .session d token .starting)
    (below : ∀ d token, b = .selectionMode d token .starting → (∃ k, token = [0, k]) ∧ d < n) :
    Roster (spawned ++ [b]) n where
  status t token := by
    rw [getElem?_concat, h.status]
    simp [noStatus]
  session t d token ht := by
    rcases getElem?_concat.mp ht with ht | ⟨-, hb⟩
    · exact h.session t d token ht
    · exact absurd hb (noSession d token)
  unique t t' d ht ht' := by
    rcases getElem?_concat.mp ht with ht | ⟨-, hb⟩
    · rcases getElem?_concat.mp ht' with ht' | ⟨-, hb⟩
      · exact h.unique t t' d ht ht'
      · exact absurd hb (noSession d [0])
    · exact absurd hb (noSession d [0])
  mode t d token ht := by
    rcases getElem?_concat.mp ht with ht | ⟨-, hb⟩
    · exact h.mode t d token ht
    · exact below d token hb

/-- A diagram that is opened gets the only session for it. -/
theorem concat_session (h : Roster spawned n) :
    Roster (spawned ++ [.session n [0] .starting]) (n + 1) where
  status t token := by
    rw [getElem?_concat, h.status]
    simp
  session t d token ht := by
    rcases getElem?_concat.mp ht with ht | ⟨-, hb⟩
    · obtain ⟨htoken, hd⟩ := h.session t d token ht
      exact ⟨htoken, Nat.lt_succ_of_lt hd⟩
    · obtain ⟨rfl, rfl, -⟩ := Activity.session.inj hb
      exact ⟨rfl, Nat.lt_succ_self n⟩
  unique t t' d ht ht' := by
    have old {i : TaskNo} (hi : spawned[i]? = some (.session n [0] .starting)) : False :=
      absurd (h.session i n [0] hi).2 (Nat.lt_irrefl n)
    rcases getElem?_concat.mp ht with ht | ⟨rfl, hb⟩
    · rcases getElem?_concat.mp ht' with ht' | ⟨rfl, hb⟩
      · exact h.unique t t' d ht ht'
      · obtain ⟨rfl, -⟩ := Activity.session.inj hb
        exact (old ht).elim
    · rcases getElem?_concat.mp ht' with ht' | ⟨rfl, -⟩
      · obtain ⟨rfl, -⟩ := Activity.session.inj hb
        exact (old ht').elim
      · rfl
  mode t d token ht := by
    rcases getElem?_concat.mp ht with ht | ⟨-, hb⟩
    · obtain ⟨htoken, hd⟩ := h.mode t d token ht
      exact ⟨htoken, Nat.lt_succ_of_lt hd⟩
    · cases hb

theorem change (hw : Roster w.spawned w.diagrams.length) (h : Change a w w') :
    Roster w'.spawned w'.diagrams.length := by
  rcases h.spawned_eq with same | ⟨b, hb, born⟩
  · rw [same]
    apply hw.mono
    by_cases ha : a = .opening
    · subst ha
      cases h with
      | openDiagram id choice hasNode => exact Nat.le_of_lt (openDiagram_length w id choice hasNode)
    · exact Nat.le_of_eq (h.diagrams_length ha).symm
  · rw [born]
    cases hb with
    | retraction s l =>
      rw [h.diagrams_length (by simp)]
      exact hw.concat (by simp) (by simp) (by simp)
    | @selectionMode t d token diagram runs hd =>
      rw [h.diagrams_length (by simp)]
      obtain ⟨rfl, valid⟩ := hw.session t d token (spawned_of_task runs)
      apply hw.concat (by simp) (by simp)
      rintro d' token' hb
      obtain ⟨rfl, rfl, -⟩ := Activity.selectionMode.inj hb
      exact ⟨⟨_, rfl⟩, valid⟩
    | job r tag =>
      rw [h.diagrams_length (by simp)]
      exact hw.concat (by simp) (by simp) (by simp)
    | session =>
      cases h with
      | openDiagram id choice hasNode =>
        obtain ⟨stores, store, -, he⟩ := openDiagram_eq w id choice hasNode
        have hl : (w.openDiagram id choice hasNode).diagrams.length = w.diagrams.length + 1 := by
          simp [he]
        rw [hl]
        exact hw.concat_session

end Roster

theorem Change.spawned_of {b : Activity} (h : Change a w w') (ht : w.spawned[t]? = some b) :
    w'.spawned[t]? = some b := by
  rcases h.spawned_eq with same | ⟨c, -, born⟩
  · rw [same, ht]
  · rw [born, List.getElem?_append_left (List.getElem?_eq_some_iff.mp ht).1, ht]

theorem Change.task_before {x' : Task} (h : Change a w w') (ht : w'.tasks[t]? = some x') :
    (∃ x, w.tasks[t]? = some x ∧ x.activity.origin = x'.activity.origin) ∨
      t = w.tasks.length ∧ Spawns w a x'.activity.origin := by
  have hs := spawned_of_task ht
  rcases h.spawned_eq with same | ⟨b, hb, born⟩
  · rw [same] at hs
    exact .inl (by simpa [spawned] using hs)
  · rw [born] at hs
    rcases getElem?_concat.mp hs with hs | ⟨rfl, rfl⟩
    · exact .inl (by simpa [spawned] using hs)
    · exact .inr ⟨by simp [spawned], hb⟩

theorem Change.stores_length (h : Change a w w') {s : StoreNo} (hs : s < w.stores.length) :
    s < w'.stores.length := by
  obtain ⟨x, hx, -⟩ := h.store (List.getElem?_eq_getElem hs)
  exact (List.getElem?_eq_some_iff.mp hx).1

theorem owns_origin (b : Activity) : Author.service.owns b.origin = Author.service.owns b := by
  cases b <;> rfl

theorem mem_insert {registry : List (Url × DiagramNo)} {id : Url} {entry : Url × DiagramNo}
    (h : entry ∈ Service.insert registry id d) : entry = (id, d) ∨ entry ∈ registry := by
  induction registry with
  | nil => exact .inl (List.mem_singleton.mp h)
  | cons head rest ih =>
    unfold Service.insert at h
    split at h
    · rcases List.mem_cons.mp h with rfl | h
      · simp_all
      · exact .inr (List.mem_cons_of_mem _ h)
    · rcases List.mem_cons.mp h with rfl | h
      · exact .inr List.mem_cons_self
      · exact (ih h).imp_right (List.mem_cons_of_mem _)

namespace Sound

theorem aborted_change {x : Task} (hw : Sound w) (h : Change a w w') (ht : w'.tasks[t]? = some x)
    (hx : x.aborted = true) : Author.service.owns x.activity = true := by
  by_cases ha : a = .service
  · subst ha
    cases h with
    | release d =>
      obtain ⟨tasks, he, hm⟩ := releaseSession_eq w d
      rw [he] at ht
      obtain ⟨y, hy, rfl⟩ := Option.map_eq_some_iff.mp ((hm t).symm.trans ht)
      rcases Bool.or_eq_true_iff.mp hx with hy' | hy'
      · exact hw.aborted t y hy hy'
      · simp only [Workspace.tracked] at hy'
        cases hd : w.diagrams[d]? with
        | none => simp [hd] at hy'
        | some diagram =>
          have hs := hw.tracked d diagram hd t (by simpa [hd] using hy')
          rw [← owns_origin, ← Option.some.inj ((spawned_of_task hy).symm.trans hs).symm]
          rfl
    | endService =>
      obtain ⟨tasks, he, hm⟩ := endService_eq w
      rw [he] at ht
      obtain ⟨y, hy, rfl⟩ := Option.map_eq_some_iff.mp ((hm t).symm.trans ht)
      rcases Bool.or_eq_true_iff.mp hx with hy' | hy'
      · exact hw.aborted t y hy hy'
      · have hs := (hw.roster.status t [0]).mpr ⟨hw.own t (by simpa using hy'), rfl⟩
        rw [← owns_origin, ← Option.some.inj ((spawned_of_task hy).symm.trans hs).symm]
        rfl
    | _ => exact hw.aborted t x ht hx
  -- Others than the service abort nothing, so the task was aborted before.
  · have old : w.roster[t]? = some (x.activity.origin, true) := by
      have new : w'.roster[t]? = some (x.activity.origin, true) := by simp [Workspace.roster, ht, hx]
      rcases h.roster_eq ha with same | ⟨b, -, born⟩
      · rwa [← same]
      · rw [born, getElem?_concat] at new
        simpa using new
    simp only [Workspace.roster, List.getElem?_map, Option.map_eq_some_iff, Prod.mk.injEq] at old
    obtain ⟨y, hy, ho, hab⟩ := old
    rw [← owns_origin, ← ho, owns_origin]
    exact hw.aborted t y hy hab

theorem diagrams_change (hw : Sound w) (h : Change a w w') :
    (∀ x ∈ w'.diagrams, x.store < w'.stores.length) ∧
    (∀ (d : DiagramNo) x, w'.diagrams[d]? = some x → ∀ t ∈ x.scope.tracked,
      w'.spawned[t]? = some (.session d [0] .starting)) ∧
    ∀ x ∈ w'.diagrams, ∀ token ∈ x.scope.cancelled, token = [] ∨ token = [0] := by
  by_cases ha : a = .opening
  · subst ha
    cases h with
    | openDiagram id choice hasNode =>
      obtain ⟨stores, store, ⟨longer, valid⟩, he⟩ := openDiagram_eq w id choice hasNode
      -- Stores are only added, so a number that was good stays good.
      have hs : ∀ {n}, n < w.stores.length → n < stores.length := fun h =>
        Nat.lt_of_lt_of_le h longer.length_le
      rw [he]
      refine ⟨fun x hx => ?_, fun d x hx t ht => ?_, fun x hx token ht => ?_⟩
      · rcases List.mem_append.mp hx with hx | hx
        · exact hs (hw.store x hx)
        · obtain rfl := List.mem_singleton.mp hx
          rcases valid with valid | ⟨y, hy, rfl⟩
          · exact valid
          · exact hs (hw.store y hy)
      · simp only [spawned, List.map_append, List.map_cons, List.map_nil]
        rw [getElem?_concat]
        rcases getElem?_concat.mp hx with hx | ⟨rfl, rfl⟩
        · exact .inl (hw.tracked d x hx t ht)
        · exact .inr ⟨by simpa using ht, rfl⟩
      · rcases List.mem_append.mp hx with hx | hx
        · exact hw.cancelled x hx token ht
        · obtain rfl := List.mem_singleton.mp hx
          simp at ht
  · have before {x' : Diagram} (hx : x' ∈ w'.diagrams) :
        ∃ (d : DiagramNo) (x : Diagram), w.diagrams[d]? = some x ∧ DiagramChange w d x a x' := by
      obtain ⟨d, hd⟩ := List.mem_iff_getElem?.mp hx
      exact ⟨d, h.diagram_before ha hd⟩
    refine ⟨fun x' hx' => ?_, fun d x' hx' t ht => ?_, fun x' hx' token ht => ?_⟩
    · obtain ⟨d, x, hx, hc⟩ := before hx'
      have store : x'.store = x.store := by cases hc <;> rfl
      exact h.stores_length (store ▸ hw.store x (List.mem_of_getElem? hx))
    · obtain ⟨x, hx, hc⟩ := h.diagram_before ha hx'
      refine h.spawned_of (hw.tracked d x hx t ?_)
      cases hc with
      | release => simp [Scope.release] at ht
      | _ => exact ht
    · obtain ⟨d, x, hx, hc⟩ := before hx'
      have old := hw.cancelled x (List.mem_of_getElem? hx) token
      cases hc with
      | endSession hr ending =>
        rcases List.mem_cons.mp ht with rfl | ht
        · exact .inr (hw.roster.session _ _ _ (spawned_of_task hr)).1
        · exact old ht
      | release =>
        rcases List.mem_cons.mp ht with rfl | ht
        · exact .inl rfl
        · exact old ht
      | _ => exact old ht

theorem service_change (hw : Sound w) (h : Change a w w') :
    (∀ t ∈ w'.service.scope.tracked, t = 0) ∧
    (∀ token ∈ w'.service.scope.cancelled, token = []) ∧
    (∀ entry ∈ w'.service.registry, entry.2 < w'.diagrams.length) ∧
    ∀ d, w'.service.active.value = some d → d < w'.diagrams.length := by
  -- Others leave the service alone and only add diagrams, so the bounds still hold.
  by_cases ha : a = .service
  · subst ha
    have length := h.diagrams_length (by simp)
    rw [length]
    have kept := And.intro hw.own (And.intro hw.ended (And.intro hw.registry hw.active))
    cases h with
    | register id valid =>
      refine ⟨hw.own, hw.ended, fun entry he => ?_, hw.active⟩
      rcases mem_insert he with rfl | he
      · exact valid
      · exact hw.registry entry he
    | unregister id => exact ⟨hw.own, hw.ended, fun entry he =>
        hw.registry entry (List.mem_of_mem_filter he), hw.active⟩
    | activate valid => exact ⟨hw.own, hw.ended, hw.registry, valid⟩
    | release d =>
      obtain ⟨tasks, he, -⟩ := releaseSession_eq w d
      rw [he]
      exact kept
    | endService =>
      obtain ⟨tasks, he, -⟩ := endService_eq w
      rw [he]
      refine ⟨by simp [Scope.release], fun token ht => ?_, by simp, hw.active⟩
      rcases List.mem_cons.mp ht with rfl | ht
      · rfl
      · exact hw.ended token ht
    | _ => exact kept
  · obtain ⟨settings, editor, he⟩ := h.service_eq ha
    have grown : w.diagrams.length ≤ w'.diagrams.length := by
      by_cases ho : a = .opening
      · subst ho
        cases h with
        | openDiagram id choice hasNode =>
          exact Nat.le_of_lt (openDiagram_length w id choice hasNode)
      · exact Nat.le_of_eq (h.diagrams_length ho).symm
    rw [he]
    exact ⟨hw.own, hw.ended, fun entry h => Nat.lt_of_lt_of_le (hw.registry entry h) grown,
      fun d h => Nat.lt_of_lt_of_le (hw.active d h) grown⟩

theorem change (hw : Sound w) (h : Change a w w') : Sound w' :=
  have diagrams := hw.diagrams_change h
  have service := hw.service_change h
  { roster := hw.roster.change h
    aborted := fun _ _ ht hx => hw.aborted_change h ht hx
    store := diagrams.1
    tracked := diagrams.2.1
    cancelled := diagrams.2.2
    own := service.1
    ended := service.2.1
    registry := service.2.2.1
    active := service.2.2.2 }

theorem activation (hw : Sound w) (hd : d < w.diagrams.length) :
    ∃ x, w.activation? d = some x := by
  have hx := List.getElem?_eq_getElem hd
  have hs := hw.store _ (List.getElem_mem hd)
  exact ⟨_, by rw [activation?, hx]; exact List.getElem?_eq_getElem hs⟩

/-- Only tasks that the service owns are aborted. -/
theorem not_aborted {x : Task} (hw : Sound w) (ht : w.tasks[t]? = some x)
    (no : Author.service.owns x.activity = false) : x.aborted = false := by
  apply Bool.eq_false_iff.mpr
  intro aborted
  have owned := hw.aborted t x ht aborted
  rw [no] at owned
  cases owned

theorem task_eq {x : Task} (hw : Sound w) (h : Change a w w') (ht : w.tasks[t]? = some x)
    (no : a.owns x.activity = false) : w'.tasks[t]? = some x := by
  by_cases ha : a = .service
  · subst ha
    -- Only the status indicator and sessions can be aborted, and this task is neither.
    have aborted (flag : Bool) (h' : w'.tasks[t]? = some { x with aborted := x.aborted || flag }) :
        w'.tasks[t]? = some x := by
      have off : (x.aborted || flag) = false := (hw.change h).not_aborted h' no
      have old : x.aborted = false := (Bool.or_eq_false_iff.mp off).1
      rw [h', off, ← old]
    cases h with
    | release d =>
      obtain ⟨tasks, he, hm⟩ := releaseSession_eq w d
      exact aborted _ (by rw [he]; exact (hm t).trans (by rw [ht]; rfl))
    | endService =>
      obtain ⟨tasks, he, hm⟩ := endService_eq w
      exact aborted _ (by rw [he]; exact (hm t).trans (by rw [ht]; rfl))
    | _ => exact ht
  · exact h.task_eq ha ht no

theorem chain (hw : Sound w) (h : Chain authors w w') : Sound w' :=
  h.keeps hw fun _ _ _ _ hu hc => hu.change hc

/-- A sound workspace moves by changes. -/
theorem move_chain (hw : Sound w) (m : Move) : Chain (w.authors m) w (w.move m) :=
  Workspace.move_chain m hw.registry

theorem move (hw : Sound w) (m : Move) : Sound (w.move m) :=
  hw.chain (hw.move_chain m)

section Keeps

variable {P : Workspace → Prop} (hw : Sound w) (hp : P w)
  (step : ∀ {a u u'}, Sound u → P u → Change a u u' → P u')

include hw hp step

/-- What every change of a sound workspace keeps, a chain keeps. -/
theorem keeps_chain (h : Chain authors w w') : P w' := by
  have kept := h.keeps (P := fun u => P u ∧ Sound u) ⟨hp, hw⟩ fun _ _ _ _ hu hc =>
    ⟨step hu.2 hu.1 hc, hu.2.change hc⟩
  exact kept.1

/-- What every change of a sound workspace keeps, a run keeps. -/
theorem keeps_run (moves : List Move) : P (w.run moves) := by
  induction moves generalizing w with
  | nil => exact hp
  | cons m moves ih => exact ih (hw.move m) (hw.keeps_chain hp step (hw.move_chain m))

end Keeps

theorem run (hw : Sound w) (moves : List Move) : Sound (w.run moves) :=
  hw.keeps_run hw (fun _ hu hc => hu.change hc) moves

theorem new (settings : Settings) (visible : List Url) (symbols : List Symbol) (conduct : Conduct) :
    Sound (.new settings visible symbols conduct) := by
  have only (t : TaskNo) (b : Activity) :
      (Workspace.new settings visible symbols conduct).spawned[t]? = some b ↔
        t = 0 ∧ b = .status [0] .starting := by
    show ([] ++ [Activity.status [0] .starting])[t]? = some b ↔ _
    rw [getElem?_concat]
    simp [eq_comm]
  constructor
  case roster =>
    constructor
    · intro t token
      simp [only]
    · intro t d token ht
      simp [only] at ht
    · intro t t' d ht
      simp [only] at ht
    · intro t d token ht
      simp [only] at ht
  case aborted =>
    intro t x ht hx
    change ([] ++ [_])[t]? = some x at ht
    rcases getElem?_concat.mp ht with ht | ⟨-, rfl⟩
    · simp at ht
    · cases hx
  case own => exact fun t ht => List.mem_singleton.mp ht
  all_goals simp [Workspace.new, Scope.new, Scope.issue, Scope.track, Watched.new, note, record, spawn]

end Sound

/-- A workspace that a run leads to. -/
def Workspace.IsReached (w : Workspace) : Prop :=
  ∃ settings visible symbols conduct moves, w = (Workspace.new settings visible symbols conduct).run moves

theorem Workspace.IsReached.sound (h : w.IsReached) : Sound w := by
  obtain ⟨settings, visible, symbols, conduct, moves, rfl⟩ := h
  exact (Sound.new settings visible symbols conduct).run moves

end DiagramLinks
