import DiagramLinks.Proofs.SelectionMode

namespace DiagramLinks

open Workspace

variable {a : Author} {authors : List Author} {w w' : Workspace} {t : TaskNo} {d : DiagramNo}
  {p : ModePoint} {token : Token} {aborted ended : Bool} {calls : List Bool}

/-- Whether an activation has changed since a change that was seen. -/
def Workspace.hasChangedSince (w : Workspace) (d : DiagramNo) (seen : Nat) : Bool :=
  (w.activation? d).any (·.isNews seen)

/-- How many steps are left to the task at a point: to call the diagram, to go on after the call, and to
end. One call tells all changes up to now. -/
def ModePoint.left (w : Workspace) (d : DiagramNo) : ModePoint → Nat
  | starting => 3
  | setting seen _ _ => 2 + 2 * (w.hasChangedSince d seen).toNat
  | resting seen => 1 + 2 * (w.hasChangedSince d seen).toNat

namespace Workspace

def stepsLeft (w : Workspace) (d : DiagramNo) (b : ModePoint × Bool) : Nat :=
  if b.2 then 0 else b.1.left w d

/-- How many steps are left that bind the selection mode of a diagram, also before the task for it is
there. -/
def modeWork (w : Workspace) (d : DiagramNo) : Nat :=
  match w.bindings d with
  | [] => 3
  | b :: _ => w.stepsLeft d b

/-- Whether a move finds the task ready that binds the selection mode of a diagram, and is its step. -/
def stepsMode (w : Workspace) (d : DiagramNo) : Move → Bool
  | .step t => w.isReady t && (w.tasks[t]?.bind (Task.binding? d)).isSome
  | _ => false

def modeSteps (w : Workspace) (d : DiagramNo) : List Move → Nat
  | [] => 0
  | m :: more => (w.stepsMode d m).toNat + (w.move m).modeSteps d more

/-- Time passes before each step of a task. -/
def stepAfter (t : TaskNo) (waits : List Nat) : List Move :=
  waits.flatMap fun milliseconds => [.wait milliseconds, .step t]

end Workspace

/-- The binding of a selection mode is never busy for long. -/
structure ModeComesToRest (w : Workspace) (d : DiagramNo) : Prop where
  few : w.modeWork d ≤ 4
  /-- A step of a task that is ready leaves less to do. -/
  progress : ∀ t token p, w.runs t (.selectionMode d token p) → w.isReady t = true →
    (w.step t).modeWork d < w.modeWork d
  /-- Only a change of the activation makes for more steps, and for no more than two. -/
  bounded : ∀ more, w.modeSteps d more + (w.run more).modeWork d ≤ w.modeWork d + 2 * w.flips d more
  /-- With nothing but time in between, the task comes to rest. Then the last call told the activation,
  unless the session has stopped. -/
  rests : ∀ (t : TaskNo) token p aborted ended,
    w.tasks[t]? = some ⟨.selectionMode d token p, aborted, ended⟩ →
      ∃ waits u, waits.length ≤ w.modeWork d ∧ u = w.run (stepAfter t waits) ∧
        u.isReady t = false ∧ u.callsInFlight d = 0 ∧
        (u.hasStopped d = true ∨ (u.modeCalls d).getLast? = some (w.isActivated d))

theorem stepsLeft_eq (same : w'.activation? d = w.activation? d) (b : ModePoint × Bool) :
    w'.stepsLeft d b = w.stepsLeft d b := by
  have left (p : ModePoint) : p.left w' d = p.left w d := by
    cases p <;> simp [ModePoint.left, hasChangedSince, same]
  rw [stepsLeft, stepsLeft, left]

theorem ModePoint.left_le (w : Workspace) (d : DiagramNo) (p : ModePoint) : p.left w d ≤ 4 := by
  cases p with
  | starting => exact Nat.le_succ 3
  | setting seen enabled due =>
    have := Bool.toNat_le (w.hasChangedSince d seen)
    simp only [ModePoint.left]
    omega
  | resting seen =>
    have := Bool.toNat_le (w.hasChangedSince d seen)
    simp only [ModePoint.left]
    omega

/-- News of the activation makes for two more steps at most. -/
theorem ModePoint.left_le_add (w w' : Workspace) (d : DiagramNo) (p : ModePoint) :
    p.left w' d ≤ p.left w d + 2 := by
  cases p with
  | starting => exact Nat.le_add_right 3 2
  | setting seen enabled due =>
    have := Bool.toNat_le (w'.hasChangedSince d seen)
    simp only [ModePoint.left]
    omega
  | resting seen =>
    have := Bool.toNat_le (w'.hasChangedSince d seen)
    simp only [ModePoint.left]
    omega

theorem modeWork_of_one {b : ModePoint × Bool} (h : w.bindings d = [b]) :
    w.modeWork d = w.stepsLeft d b := by
  simp [modeWork, h]

theorem ModeChange.stepsLeft_lt {b b' : ModePoint × Bool} (h : ModeChange w d b b' calls) :
    w.stepsLeft d b' < w.stepsLeft d b := by
  cases h with
  | @call _ x due hx news =>
    have told : w.hasChangedSince d x.changes = false := by simp [hasChangedSince, hx, Watched.isNews]
    rcases news with rfl | ⟨seen, rfl, news⟩
    · simp [stepsLeft, ModePoint.left, told]
    · have due : w.hasChangedSince d seen = true := by simp [hasChangedSince, hx, news]
      simp [stepsLeft, ModePoint.left, told, due]
  | rest =>
    simp only [stepsLeft, ModePoint.left, Bool.false_eq_true, if_false]
    omega
  | finish ending =>
    obtain ⟨seen, rfl, -⟩ := ending
    simp only [stepsLeft, ModePoint.left, Bool.false_eq_true, if_true, if_false]
    omega

/-- A step of a task that is ready is one of the changes that it can make. -/
theorem Sound.mode_steps (hw : Sound w) (ht : w.runs t (.selectionMode d token p))
    (ready : w.isReady t = true) : ∃ q ended calls, ModeChange w d (p, false) (q, ended) calls ∧
      (w.step t).tasks[t]? = some ⟨.selectionMode d token q, false, ended⟩ := by
  obtain ⟨-, ⟨k, rfl⟩, diagram, hd⟩ := hw.mode_running ht
  obtain ⟨x, hx⟩ := hw.activation (List.getElem?_eq_some_iff.mp hd).1
  have goes : w.step t = w.stepMode t d [0, k] p := by simp [Workspace.step, ht, ready]
  rw [goes]
  simp only [stepMode, hd, hx]
  rw [isReady_of_runs ht] at ready
  cases p with
  | starting => exact ⟨_, _, _, .call _ hx (.inl rfl), runs_moveTo ht⟩
  | setting seen enabled due =>
    refine ⟨_, _, _, .rest, ?_⟩
    dsimp only
    split
    · exact runs_moveTo ht
    · exact runs_moveTo ht
  | resting seen =>
    have finished : (w.finish t).tasks[t]? = some ⟨.selectionMode d [0, k] (.resting seen), false, true⟩ := by
      simp [finish, ht]
    dsimp only
    split
    · next cancelled =>
      rw [hw.isCancelled_child hd] at cancelled
      have stopped : w.hasStopped d = true := by simp [Workspace.hasStopped, hd, cancelled]
      exact ⟨_, _, _, .finish ⟨seen, rfl, .inl stopped⟩, finished⟩
    · split
      · next news => exact ⟨_, _, _, .call _ hx (.inr ⟨seen, rfl, news⟩), runs_moveTo ht⟩
      · next going old =>
        have old := Bool.of_not_eq_true old
        have closed : x.live = false := by simpa [canRun, hd, hx, going, old] using ready
        rw [if_neg (by simp [closed])]
        exact ⟨_, _, _, .finish ⟨seen, rfl, .inr ⟨x, hx, closed, isNews_eq_false.mp old⟩⟩, finished⟩

theorem Chain.changes_le {x : Watched Bool} (h : Chain authors w w') (hx : w.activation? d = some x) :
    ∃ x', w'.activation? d = some x' ∧ x.changes ≤ x'.changes := by
  refine h.keeps (P := fun u => ∃ x', u.activation? d = some x' ∧ x.changes ≤ x'.changes)
    ⟨x, hx, Nat.le_refl _⟩ ?_
  rintro a ha u u' ⟨y, hy, le⟩ hc
  obtain ⟨z, hz, later⟩ := hc.later hy
  exact ⟨z, hz, Nat.le_trans le later.changes⟩

theorem Sound.left_move_le {x : Watched Bool} (hw : Sound w) (m : Move)
    (hx : w.activation? d = some x) (p : ModePoint) : p.left (w.move m) d ≤
      p.left w d + 2 * if (w.move m).isActivated d = w.isActivated d then 0 else 1 := by
  obtain ⟨x', hx', le⟩ := hw.move_changes m hx
  obtain ⟨y, hy, grown⟩ := (hw.move_chain m).changes_le hx
  obtain rfl := Option.some.inj (hx'.symm.trans hy)
  rw [isActivated_eq hx, isActivated_eq hx']
  by_cases same : x'.value = x.value
  · have eq : x'.changes = x.changes := by
      rw [if_pos same] at le
      omega
    cases p <;> simp [ModePoint.left, hasChangedSince, hx, hx', Watched.isNews, eq, same]
  · rw [if_neg same]
    exact p.left_le_add w (w.move m) d

theorem Sound.runs_of_stepsMode {m : Move} (hw : Sound w) (steps : w.stepsMode d m = true) :
    ∃ t token p, m = .step t ∧ w.runs t (.selectionMode d token p) ∧ w.isReady t = true := by
  cases m with
  | step t =>
    simp only [stepsMode, Bool.and_eq_true, Option.isSome_iff_exists, Option.bind_eq_some_iff] at steps
    obtain ⟨ready, ⟨p, ended⟩, ⟨b, aborted, ended'⟩, ht, binding⟩ := steps
    cases b with
    | selectionMode e token q =>
      simp only [Task.binding?, Option.ite_none_right_eq_some] at binding
      obtain ⟨rfl, -⟩ := binding
      obtain ⟨rfl, -⟩ := hw.mode_running ht
      obtain rfl : ended' = false := by
        simp only [isReady, ht] at ready
        simp_all
      exact ⟨t, token, q, rfl, ht, ready⟩
    | _ => cases binding
  | _ => cases steps

/-- How long the task waits for the answer to a call. -/
def ModePoint.wait (w : Workspace) : ModePoint → Nat
  | setting _ _ due => due - w.now
  | _ => 0

namespace Binding

theorem modeWork_eq (hb : Binding w d)
    (ht : w.tasks[t]? = some ⟨.selectionMode d token p, aborted, ended⟩) :
    w.modeWork d = w.stepsLeft d (p, ended) :=
  modeWork_of_one (hb.of_mem (mem_bindings ht)).1

theorem modeWork_le (hb : Binding w d) : w.modeWork d ≤ 4 := by
  cases hb with
  | none bound bindings => simp [modeWork, bindings]
  | one bound bindings =>
    rw [modeWork_of_one bindings, stepsLeft]
    split
    · exact Nat.zero_le _
    · exact ModePoint.left_le w d _

theorem progress (hb : Binding w d) (hw : Sound w) (ht : w.runs t (.selectionMode d token p))
    (ready : w.isReady t = true) : (w.step t).modeWork d < w.modeWork d ∧
      (w.step t).activation? d = w.activation? d := by
  have hb' : Binding (w.step t) d := hb.move hw (.step t)
  obtain ⟨q, ended, calls, changed, ht'⟩ := hw.mode_steps ht ready
  have same : (w.step t).activation? d = w.activation? d := by
    rcases step_mode ht with same | hc
    · rw [same]
    · exact (hc.mode_same d).1
  refine ⟨?_, same⟩
  rw [hb.modeWork_eq ht, hb'.modeWork_eq ht', stepsLeft_eq same]
  exact changed.stepsLeft_lt

/-- Others do no more to the binding than to start it. -/
theorem bindings_of_chain (hb : Binding w d) (hw : Sound w) (hc : Chain authors w w')
    (no : Author.mode ∉ authors) :
    w'.bindings d = w.bindings d ∨ w.bindings d = [] ∧ w'.bindings d = [(.starting, false)] := by
  have kept := hc.keeps (P := fun u => (Sound u ∧ Binding u d) ∧
    (u.bindings d = w.bindings d ∨ w.bindings d = [] ∧ u.bindings d = [(.starting, false)]))
    ⟨⟨hw, hb⟩, .inl rfl⟩ ?_
  · exact kept.2
  · rintro a ha u u' ⟨⟨hw, hb⟩, stands⟩ hc
    refine ⟨⟨hw.change hc, hb.change hw hc⟩, ?_⟩
    have other : a ≠ .mode := fun eq => no (eq ▸ ha)
    rcases hc.untouched other d with binds | same
    · have unbound := isBound_of_binds hw binds
      have none : u.bindings d = [] := by
        cases hb with
        | none bound bindings => exact bindings
        | one bound => simp [unbound] at bound
      have before : w.bindings d = [] := by
        rcases stands with same | ⟨-, begun⟩
        · exact same ▸ none
        · simp [none] at begun
      exact .inr ⟨before, bindings_of_binds binds none⟩
    · rwa [same.bindings]

theorem mode_work_le (hb : Binding w d) (hw : Sound w) {m : Move} (part : Author.mode ∈ w.authors m) :
    (w.move m).modeWork d ≤ w.modeWork d := by
  rcases move_mode part with same | hc
  · exact Nat.le_of_eq (by rw [same])
  · have left := stepsLeft_eq (hc.mode_same d).1
    rcases hc.mode hw d with untouched | ⟨before, after, b, b', calls, changed, old, new, -⟩
    · simp only [modeWork, untouched.bindings, left, Nat.le_refl]
    · have one := (hb.of_mem (show (b.1, b.2) ∈ w.bindings d by rw [old]; simp)).1
      rw [one] at old
      obtain ⟨rfl, -, rfl⟩ := eq_of_singleton old
      rw [modeWork_of_one new, modeWork_of_one one, left]
      exact Nat.le_of_lt changed.stepsLeft_lt

theorem other_work_le (hb : Binding w d) (hw : Sound w) (m : Move) (no : Author.mode ∉ w.authors m) :
    (w.move m).modeWork d ≤
      w.modeWork d + 2 * if (w.move m).isActivated d = w.isActivated d then 0 else 1 := by
  rcases hb.bindings_of_chain hw (hw.move_chain m) no with same | ⟨none, begun⟩
  · cases hb with
    | none bound bindings =>
      simp only [modeWork, same, bindings]
      exact Nat.le_add_right _ _
    | @one p ended bound bindings handled knows ending =>
      obtain ⟨x, hx, -⟩ := knows
      have le := hw.left_move_le m hx p
      rw [modeWork_of_one (same.trans bindings), modeWork_of_one bindings, stepsLeft, stepsLeft]
      split
      · exact Nat.zero_le _
      · exact le
  · rw [modeWork_of_one begun, modeWork, none]
    exact Nat.le_add_right _ _

theorem move_work (hb : Binding w d) (hw : Sound w) (m : Move) :
    (w.stepsMode d m).toNat + (w.move m).modeWork d ≤
      w.modeWork d + 2 * if (w.move m).isActivated d = w.isActivated d then 0 else 1 := by
  cases steps : w.stepsMode d m with
  | true =>
    obtain ⟨t, token, p, rfl, ht, ready⟩ := hw.runs_of_stepsMode steps
    have less : (w.step t).modeWork d < w.modeWork d := (hb.progress hw ht ready).1
    rw [Bool.toNat_true]
    exact Nat.le_add_right_of_le (Nat.one_add _ ▸ less)
  | false =>
    rw [Bool.toNat_false, Nat.zero_add]
    by_cases part : Author.mode ∈ w.authors m
    · exact Nat.le_add_right_of_le (hb.mode_work_le hw part)
    · exact hb.other_work_le hw m part

theorem run_work (hb : Binding w d) (hw : Sound w) (more : List Move) :
    w.modeSteps d more + (w.run more).modeWork d ≤ w.modeWork d + 2 * w.flips d more := by
  induction more generalizing w with
  | nil => exact Nat.le_of_eq (Nat.zero_add _)
  | cons m more ih =>
    have here := hb.move_work hw m
    have rest := ih (hb.move hw m) (hw.move m)
    have run : w.run (m :: more) = (w.move m).run more := rfl
    rw [run, modeSteps, flips]
    omega

theorem runs_of_busy (hb : Binding w d) (hw : Sound w)
    (ht : w.tasks[t]? = some ⟨.selectionMode d token p, aborted, ended⟩)
    (busy : w.isReady t = true ∨ w.callsInFlight d ≠ 0) : w.runs t (.selectionMode d token p) := by
  obtain ⟨rfl, -⟩ := hw.mode_running ht
  cases ended with
  | false => exact ht
  | true =>
    have one := (hb.of_mem (mem_bindings ht)).1
    have idle : w.callsInFlight d = 0 := by simp [callsInFlight, one]
    have unready : w.isReady t = false := by simp [isReady, ht]
    exact absurd (busy.resolve_right fun calls => calls idle) (by simp [unready])

/-- After waiting for the answer, a task that is not at rest is ready. -/
theorem isReady_wait (hb : Binding w d) (ht : w.runs t (.selectionMode d token p))
    (busy : w.isReady t = true ∨ w.callsInFlight d ≠ 0) :
    (w.move (.wait (p.wait w))).isReady t = true := by
  have later : (w.move (.wait (p.wait w))).runs t (.selectionMode d token p) := ht
  have one := (hb.of_mem (mem_bindings ht)).1
  rw [isReady_of_runs later]
  rw [isReady_of_runs ht] at busy
  cases p with
  | starting => rfl
  | setting seen enabled due =>
    have now : (w.move (.wait (ModePoint.wait w (.setting seen enabled due)))).now =
      w.now + (due - w.now) := rfl
    simp only [canRun, now, decide_eq_true_eq]
    omega
  | resting seen =>
    have idle : w.callsInFlight d = 0 := by simp [callsInFlight, one, ModePoint.isSetting]
    exact busy.resolve_right fun h => h idle

theorem rests (hb : Binding w d) (hw : Sound w)
    (ht : w.tasks[t]? = some ⟨.selectionMode d token p, aborted, ended⟩) :
    ∃ waits u, waits.length ≤ w.modeWork d ∧ u = w.run (stepAfter t waits) ∧
      u.isReady t = false ∧ u.callsInFlight d = 0 ∧
      (u.hasStopped d = true ∨ (u.modeCalls d).getLast? = some (w.isActivated d)) := by
  -- On the steps that are left. Each wait lets the call in flight be answered, and the step after it
  -- leaves less to do.
  induction work : w.modeWork d using Nat.strongRecOn generalizing w p aborted ended with
  | ind k ih =>
    by_cases busy : w.isReady t = true ∨ w.callsInFlight d ≠ 0
    · have runs := hb.runs_of_busy hw ht busy
      have ready := hb.isReady_wait runs busy
      have hb' := hb.move hw (.wait (p.wait w))
      have hw' := hw.move (.wait (p.wait w))
      obtain ⟨less, kept⟩ := hb'.progress hw' runs ready
      obtain ⟨q, ended, calls, -, ht'⟩ := hw'.mode_steps runs ready
      obtain ⟨waits, u, short, run, waiting, idle, told⟩ :=
        ih _ (work ▸ less) (hb'.move hw' (.step t)) (hw'.move (.step t)) ht' rfl
      refine ⟨p.wait w :: waits, u, Nat.succ_le_of_lt (Nat.lt_of_le_of_lt short (work ▸ less)), run,
        waiting, idle, ?_⟩
      -- No step of the task writes its store, so what was told in the end is the activation of now.
      have same : ((w.move (.wait (p.wait w))).step t).isActivated d = w.isActivated d := by
        rw [isActivated, kept]
        rfl
      exact same ▸ told
    · obtain ⟨unready, calm⟩ := not_or.mp busy
      have waits := Bool.of_not_eq_true unready
      have idle := of_not_not calm
      exact ⟨[], w, Nat.zero_le _, rfl, waits, idle, hb.told hw ht waits idle⟩

end Binding

/-- In every run, whatever the hosts do, the selection mode of every diagram comes to rest. -/
theorem run_modeComesToRest (settings : Settings) (visible : List Url) (symbols : List Symbol)
    (conduct : Conduct) (moves : List Move) (d : DiagramNo) :
    ModeComesToRest ((Workspace.new settings visible symbols conduct).run moves) d := by
  have start := Sound.new settings visible symbols conduct
  have hw := start.run moves
  have hb := (Binding.new settings visible symbols conduct).run (d := d) start moves
  constructor
  case few => exact hb.modeWork_le
  case progress => exact fun t token p ht ready => (hb.progress hw ht ready).1
  case bounded => exact hb.run_work hw
  case rests => exact fun t token p aborted ended ht => hb.rests hw ht

end DiagramLinks
