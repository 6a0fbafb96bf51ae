import DiagramLinks.Proofs.DoubleArithmetic
import DiagramLinks.Proofs.LinkAction

namespace DiagramLinks

open Workspace

def Json.Number.IsZero : Json.Number → Prop
  | natural n => n = 0
  | negative n => n = 0
  | double x => x = 0.0 ∨ x = -0.0

/-- Null, false, the empty text, and numbers equal to zero. -/
inductive Json.IsEmptyValue : Json → Prop
  | null : IsEmptyValue .null
  | false : IsEmptyValue (.bool false)
  | text : IsEmptyValue (.string "")
  | zero {n : Json.Number} (zero : n.IsZero) : IsEmptyValue (.number n)

namespace Json

/-- Rounding makes no integer zero. -/
theorem Number.toDouble_bne_zero {n : Number} : (n.toDouble != 0.0) = false ↔ n.IsZero := by
  cases n with
  | natural n =>
    constructor
    · intro same
      by_contra nonzero
      have pos : 0 < n.toNat := Nat.pos_of_ne_zero fun zero => nonzero (UInt64.toNat_inj.mp zero)
      obtain ⟨m, e, positive, rounds, parts⟩ := Double.roundsTo_toFloat pos
      rw [toDouble, parts, Double.ofParts_bne_zero rounds.normal] at same
      cases same
    · rintro rfl
      rfl
  | negative n =>
    constructor
    · intro same
      by_contra nonzero
      have size : n.toInt.natAbs.toUInt64.toNat = n.toInt.natAbs := by
        have := n.le_toInt
        have := n.toInt_lt
        exact Nat.mod_eq_of_lt (by omega)
      have pos : 0 < n.toInt.natAbs := Int.natAbs_pos.mpr fun zero => nonzero (Int64.toInt_inj.mp zero)
      obtain ⟨m, e, positive, rounds, parts⟩ := Double.roundsTo_toFloat (size.symm ▸ pos)
      simp only [toDouble, parts, rounds.normal.neg positive] at same
      split at same <;> rw [Double.ofParts_bne_zero rounds.normal] at same <;> cases same
    · rintro rfl
      rfl
  | double x => exact Double.bne_zero_eq_false_iff

theorem isPresent_eq_false_iff {v : Json} : v.isPresent = false ↔ v.IsEmptyValue := by
  constructor
  · intro absent
    cases v with
    | null => exact .null
    | bool b =>
      obtain rfl : b = false := absent
      exact .false
    | number n => exact .zero (Number.toDouble_bne_zero.mp absent)
    | string s =>
      obtain rfl : s = "" := by simpa [isPresent] using absent
      exact .text
    | array items => cases absent
    | object entries => cases absent
  · intro empty
    cases empty with
    | null => rfl
    | false => rfl
    | text => rfl
    | zero zero => exact Number.toDouble_bne_zero.mpr zero

theorem isPresent_iff {v : Json} : v.isPresent = true ↔ ¬v.IsEmptyValue := by
  rw [← isPresent_eq_false_iff, Bool.not_eq_false]

end Json

def Conduct.failsToOpen (c : Conduct) (uri : Url) : Option HostFailure :=
  if c.refuses .openDocument then some (.refused .openDocument)
  else if c.neverOpens then some (.cannotOpen uri)
  else none

def Conduct.failsToShow (c : Conduct) : Option HostFailure :=
  if c.refuses .showDocument then some (.refused .showDocument) else none

/-- All that a step of a handling of link data sees of the workspace, but for the activation at its start. -/
structure Surroundings where
  revealer : Revealer
  /-- Why a document cannot be opened at the moment. -/
  failsToOpen : Url → Option HostFailure
  failsToShow : Option HostFailure
  nextHighlight : Settings → Location → Highlight

/-- The hosts with a symbol index that always answers, and at once. -/
def Conduct.withIndex (c : Conduct) : Conduct :=
  { c with
    neverFinds := false
    refuses := fun o => if o = .findSymbols then false else c.refuses o
    latency := fun o => if o = .findSymbols then 0 else c.latency o }

/-- The time, the highlights, and the hosts whatever the symbol index does. -/
structure Environment where
  now : Nat
  revealer : Revealer
  lastId : Nat
  hosts : Conduct

def Environment.surroundings (e : Environment) : Surroundings where
  revealer := e.revealer
  failsToOpen := e.hosts.failsToOpen
  failsToShow := e.hosts.failsToShow
  nextHighlight s l := ⟨e.hosts.editorOf e.lastId l.uri s.column, e.hosts.decorationOf (e.lastId + 1)⟩

namespace Workspace

def environment (w : Workspace) : Environment :=
  ⟨w.now, w.revealer, w.lastId, w.conduct.withIndex⟩

def surroundings (w : Workspace) : Surroundings :=
  w.environment.surroundings

/-- What a task sees when it takes a step with a move. -/
def seenBy (w : Workspace) (t : TaskNo) : Move → List Surroundings
  | .step s => if s = t ∧ w.isReady t = true then [w.surroundings] else []
  | _ => []

/-- What a task sees with its steps in a run. -/
def surroundingsOf (w : Workspace) (t : TaskNo) : List Move → List Surroundings
  | [] => []
  | m :: more => w.seenBy t m ++ (w.move m).surroundingsOf t more

end Workspace

/-- Moves of one task and of hosts. -/
def Move.IsAlone (t : TaskNo) : Move → Prop
  | .step s => s = t
  | .wait _ => True
  | .setRefusal _ _ => True
  | .setLatency _ _ => True
  | .setVisible _ => True
  | _ => False

/-- Where the handling of link data stands, if it was activated at its start. -/
inductive Handling
  | starting
  | opening (settings : Settings) (location : Location)
  | showing (settings : Settings) (location : Location)
  | ended (result : Except Problem Unit)

namespace Handling

/-- A step of the handling, with the calls it makes. -/
def next (data : Json) (x : Surroundings) : Handling → Handling × List Call
  | .starting =>
    match Location.ofJson data with
    | .ok l => (.opening x.revealer.settings l, [.openDocument l.uri])
    | .error m => (.ended (.error (.malformed m)), [])
  | .opening s l =>
    match x.failsToOpen l.uri with
    | none => (.showing s l, [.showDocument l.uri s.column true])
    | some h => (.ended (.error (.host h)), [])
  | .showing s l =>
    match x.failsToShow with
    | none => (.ended (.ok ()), Reveal.painting ⟨0, s, l⟩ (x.nextHighlight s l) x.revealer.active)
    | some h => (.ended (.error (.host h)), [])
  | .ended result => (.ended result, [])

/-- Where the handling stands after its steps, and the calls it has made. -/
def after (data : Json) (seen : List Surroundings) : Handling × List Call :=
  seen.foldl (fun (h, calls) x => ((h.next data x).1, calls ++ (h.next data x).2)) (.starting, [])

/-- A request stands where the handling stands. -/
def At : Handling → JobPoint → Prop
  | .starting, q => q = .starting
  | .opening s l, q => ∃ due, q = .waiting ⟨.opening s l, due⟩
  | .showing s l, q => ∃ due, q = .waiting ⟨.showing s l, due⟩
  | .ended result, q => q = .ended result

/-- Where a request stands that comes to stand where the handling stands. -/
def point (e : Environment) : Handling → JobPoint
  | .starting => .starting
  | .opening s l => .waiting ⟨.opening s l, e.now + e.hosts.latency .openDocument⟩
  | .showing s l => .waiting ⟨.showing s l, e.now + e.hosts.latency .showDocument⟩
  | .ended result => .ended result

end Handling

variable {w w' u : Workspace} {t : TaskNo} {d : DiagramNo} {m : Move} {q : JobPoint} {label : String} {data : Json}
  {node : NodeSelection} {h : Handling} {x : Surroundings} {seen : List Surroundings} {more : List Move} {j j' : Job}

theorem answer_opening_eq (w : Workspace) (s : Settings) (l : Location) : w.answer (.opening s l) =
    match w.conduct.failsToOpen l.uri with
    | none => (w.record (.carriedOut (Await.opening s l).call)).ask (.showing s l)
    | some h => (w, .over (.error (.host h))) := by
  by_cases refuses : w.conduct.refuses .openDocument = true
  · simp [answer, Conduct.failsToOpen, Await.operation, refuses, fail]
  · by_cases never : w.conduct.neverOpens = true <;>
      simp [answer, Conduct.failsToOpen, Await.operation, refuses, never, fail]

theorem answer_showing_eq (w : Workspace) (s : Settings) (l : Location) : w.answer (.showing s l) =
    match w.conduct.failsToShow with
    | none => ((w.record (.carriedOut (Await.showing s l).call)).highlight s l, .over (.ok ()))
    | some h => (w, .over (.error (.host h))) := by
  by_cases refuses : w.conduct.refuses .showDocument = true <;>
    simp [answer, Conduct.failsToShow, Await.operation, refuses, fail]

theorem handle_eq (link : node.link = some data) (activated : w.isActivated d = true) : w.handle d node =
    match Location.ofJson data with
    | .ok l => w.reveal l
    | .error m => (w, .over (.error (.malformed m))) := by
  cases decoded : Location.ofJson data <;> simp only [Workspace.handle, activated, link, decoded, if_true]

theorem handle_of_off (off : w.isActivated d = false) : w.handle d node = (w, .over (.ok ())) := by
  rw [Workspace.handle, if_neg (Bool.eq_false_iff.mp off)]

theorem continueJob_environment (w : Workspace) (t : TaskNo) (r : Request) (tag : Option String) (p : Progress) :
    (w.continueJob t r tag p).environment = w.environment := by
  rw [continueJob_eq]
  split
  · unfold retireIfUnused
    split
    · rfl
    · obtain ⟨diagrams, tasks, retired⟩ := retire_eq (w.goOn t r tag p)
      rw [retired]
      rfl
  · rfl

namespace Job.StandsAt

/-- A request goes on from what it has recorded, and its end does not change the environment. -/
theorem goesTo {u : Workspace} {new : List Event} (stands : j.StandsAt q w) (ready : w.isReady j.task = true)
    (hw : Sound w) (p : Progress) (records : Records w u new)
    (goes : w.stepJob j.task j.request j.tag q = u.continueJob j.task j.request j.tag p) :
    j.StandsAt p.jobPoint (w.step j.task) ∧
      seenIn Event.call? (w.recordedBy j.task (.step j.task)) = (new.filterMap Event.call?).reverse ∧
      (w.step j.task).environment = u.environment := by
  obtain ⟨next, made, -⟩ := stands.step ready hw p records goes
  refine ⟨next, made, ?_⟩
  rw [step_of_job (stands.runs ready) ready, goes, continueJob_environment]

/-- A step of a request takes it to where the handling stands next. -/
structure Reaches (j : Job) (w : Workspace) (h : Handling) (calls : List Call) : Prop where
  stands : j.StandsAt (h.point w.environment) (w.step j.task)
  calls : seenIn Event.call? (w.recordedBy j.task (.step j.task)) = calls
  environment : h = .ended (.ok ()) ∨ (w.step j.task).environment = w.environment

theorem fails {due : Nat} {a : Await} {f : HostFailure} (stands : j.StandsAt (.waiting ⟨a, due⟩) w)
    (ready : w.isReady j.task = true) (hw : Sound w) (answer : w.answer a = (w, .over (.error (.host f)))) :
    Reaches j w (.ended (.error (.host f))) [] := by
  obtain ⟨next, made, same⟩ := stands.goesTo ready hw _ (.nil w) (by rw [stepJob, answer])
  exact ⟨next, made, .inr same⟩

theorem handles (stands : j.StandsAt q w) (ready : w.isReady j.task = true) (hw : Sound w)
    (request : j.request = .handle d node) (link : node.link = some data) (at' : h.At q)
    (activated : q = .starting → w.isActivated d = true) :
    Reaches j w (h.next data w.surroundings).1 (h.next data w.surroundings).2 := by
  cases h with
  | starting =>
    obtain rfl : q = .starting := at'
    have handle := handle_eq link (activated rfl)
    simp only [Handling.next]
    cases decoded : Location.ofJson data with
    | ok l =>
      rw [decoded] at handle
      obtain ⟨next, made, same⟩ := stands.goesTo ready hw _ (.ask w _)
        (by rw [stepJob, request, start, handle]; rfl)
      exact ⟨next, made, .inr same⟩
    | error m =>
      rw [decoded] at handle
      obtain ⟨next, made, same⟩ := stands.goesTo ready hw _ (.nil w)
        (by rw [stepJob, request, start, handle])
      exact ⟨next, made, .inr same⟩
  | opening s l =>
    obtain ⟨due, rfl⟩ := at'
    have answer := answer_opening_eq w s l
    have sees : w.surroundings.failsToOpen l.uri = w.conduct.failsToOpen l.uri := rfl
    simp only [Handling.next, sees]
    cases opens : w.conduct.failsToOpen l.uri with
    | none =>
      rw [opens] at answer
      obtain ⟨next, made, same⟩ := stands.goesTo ready hw _ ((Records.record w _).trans (.ask _ _))
        (by rw [stepJob, answer])
      exact ⟨next, made, .inr same⟩
    | some f => exact stands.fails ready hw (answer.trans (by rw [opens]))
  | showing s l =>
    obtain ⟨due, rfl⟩ := at'
    have answer := answer_showing_eq w s l
    have sees : w.surroundings.failsToShow = w.conduct.failsToShow := rfl
    simp only [Handling.next, sees]
    cases shows : w.conduct.failsToShow with
    | none =>
      rw [shows] at answer
      obtain ⟨next, made, -⟩ := stands.goesTo ready hw _ ((Records.record w _).trans (.highlight _ s l))
        (by rw [stepJob, answer])
      rw [List.filterMap_append, List.reverse_append] at made
      exact ⟨next, made.trans (Reveal.calls_highlightEvents (r := ⟨0, s, l⟩)), .inl rfl⟩
    | some f => exact stands.fails ready hw (answer.trans (by rw [shows]))
  | ended result =>
    obtain rfl : q = .ended result := at'
    cases stands.going ready

end Job.StandsAt

theorem surroundingsOf_concat (w : Workspace) (t : TaskNo) (more : List Move) (m : Move) :
    w.surroundingsOf t (more ++ [m]) = w.surroundingsOf t more ++ (w.run more).seenBy t m := by
  induction more generalizing w with
  | nil => exact (List.append_nil _).trans (List.nil_append _).symm
  | cons first more ih =>
    rw [List.cons_append, surroundingsOf, ih, surroundingsOf, List.append_assoc]
    rfl

theorem seenBy_of_ready (ready : w.isReady t = true) : w.seenBy t (.step t) = [w.surroundings] :=
  if_pos ⟨rfl, ready⟩

theorem seenBy_of_still (still : m = .step t → w.isReady t = false) : w.seenBy t m = [] := by
  unfold seenBy
  split
  · next s =>
    rw [if_neg]
    rintro ⟨rfl, ready⟩
    rw [still rfl] at ready
    cases ready
  · rfl

namespace Handling

theorem after_concat : after data (seen ++ [x]) =
    (((after data seen).1.next data x).1, (after data seen).2 ++ ((after data seen).1.next data x).2) := by
  rw [after, List.foldl_append]
  rfl

theorem at_point {e : Environment} : ∀ h : Handling, h.At (h.point e)
  | .starting => rfl
  | .opening _ _ => ⟨_, rfl⟩
  | .showing _ _ => ⟨_, rfl⟩
  | .ended _ => rfl

/-- With its first step the handling has begun. -/
theorem next_begun {e : Environment} (h : Handling) : (h.next data x).1.point e ≠ .starting := by
  cases h <;> simp only [next]
  case ended result => exact nofun
  all_goals split <;> exact nofun

theorem next_reveals (h : Handling) : ∀ c ∈ (h.next data x).2, c.reveals = true := by
  intro c hc
  cases h with
  | starting =>
    simp only [next] at hc
    split at hc
    · obtain rfl := List.mem_singleton.mp hc
      rfl
    · cases hc
  | opening s l =>
    simp only [next] at hc
    split at hc
    · obtain rfl := List.mem_singleton.mp hc
      rfl
    · cases hc
  | showing s l =>
    simp only [next] at hc
    split at hc
    · unfold Reveal.painting at hc
      cases previous : x.revealer.active <;> simp [previous] at hc
      · rcases hc with rfl | rfl | rfl <;> rfl
      · rcases hc with rfl | rfl | rfl | rfl <;> rfl
    · cases hc
  | ended result => cases hc

/-- Link data leads to calls that reveal a location, and to no others. -/
theorem after_reveals (data : Json) (seen : List Surroundings) :
    ∀ c ∈ (after data seen).2, c.reveals = true := by
  induction seen using List.reverseRecOn with
  | nil => exact fun c hc => absurd hc List.not_mem_nil
  | append_singleton seen x ih =>
    rw [after_concat]
    intro c hc
    rcases List.mem_append.mp hc with hc | hc
    · exact ih c hc
    · exact next_reveals _ c hc

theorem at_ended {h : Handling} {result : Except Problem Unit} : h.At (.ended result) ↔ h = .ended result := by
  cases h <;> simp [At, eq_comm]

end Handling

namespace Job.StandsAt

theorem ready (stands : j.StandsAt .starting w) : w.isReady j.task = true := by
  have ht : w.tasks[j.task]? = some ⟨.job j.request j.tag .starting, false, false⟩ := stands
  simp [isReady, ht, canRun]

/-- Handling link data goes on as its surroundings let it. -/
theorem handling (stands : j.StandsAt .starting w) (hw : Sound w) (request : j.request = .handle d node)
    (link : node.link = some data) (activated : w.isActivated d = true) (more : List Move) :
    ∃ q, j.StandsAt q (w.run (.step j.task :: more)) ∧ q ≠ .starting ∧
      (Handling.after data (w.surroundingsOf j.task (.step j.task :: more))).1.At q ∧
      w.callsBy j.task (.step j.task :: more) =
        (Handling.after data (w.surroundingsOf j.task (.step j.task :: more))).2 := by
  induction more using List.reverseRecOn with
  | nil =>
    obtain ⟨next, made, -⟩ := stands.handles stands.ready hw request link (h := .starting) rfl fun _ => activated
    rw [surroundingsOf, surroundingsOf, seenBy_of_ready stands.ready, callsBy, callsBy, made]
    exact ⟨_, next, Handling.next_begun _, Handling.at_point _, List.append_nil _⟩
  | append_singleton more m ih =>
    obtain ⟨q, stands', begun, at', calls⟩ := ih
    have sound : Sound (w.run (.step j.task :: more)) := hw.run _
    rw [← List.cons_append, run_concat, callsBy_concat, surroundingsOf_concat, calls]
    rcases stands'.move_cases sound m with ⟨rfl, ready⟩ | ⟨stays, nothing, still⟩
    · obtain ⟨next, made, -⟩ := stands'.handles ready sound request link at' fun first => absurd first begun
      rw [seenBy_of_ready ready, Handling.after_concat, made]
      exact ⟨_, next, Handling.next_begun _, Handling.at_point _, rfl⟩
    · rw [nothing, seenBy_of_still still, List.append_nil]
      exact ⟨q, stays, begun, at', List.append_nil _⟩

/-- A request that is through when it has started makes no calls. -/
theorem endsAtOnce {result : Except Problem Unit} (stands : j.StandsAt .starting w) (hw : Sound w)
    (starts : w.start j.request = (w, .over result)) (more : List Move) :
    j.StandsAt (.ended result) (w.run (.step j.task :: more)) ∧ w.callsBy j.task (.step j.task :: more) = [] := by
  obtain ⟨next, made, -⟩ := stands.step stands.ready hw (.over result) (.nil w) (by rw [stepJob, starts])
  have sound := hw.move (.step j.task)
  induction more using List.reverseRecOn with
  | nil =>
    rw [callsBy, callsBy, made]
    exact ⟨next, rfl⟩
  | append_singleton more m ih =>
    obtain ⟨ended, calls⟩ := ih
    rw [← List.cons_append, run_concat, callsBy_concat, calls]
    rcases ended.move_cases (hw.run _) m with ⟨rfl, ready⟩ | ⟨stays, nothing, -⟩
    · cases ended.going ready
    · exact ⟨stays, by rw [nothing]; rfl⟩

end Job.StandsAt

theorem environment_setRefusal (w : Workspace) (operation : Operation) (on : Bool) :
    (w.setRefusal operation on).environment = { w.environment with hosts := { w.environment.hosts with
      refuses := fun o => if o = .findSymbols then false else if o = operation then on
        else w.environment.hosts.refuses o } } := by
  simp only [setRefusal, environment, Conduct.withIndex, Environment.mk.injEq, Conduct.mk.injEq, true_and, and_true]
  funext o
  by_cases index : o = .findSymbols <;> simp [index]

theorem environment_setLatency (w : Workspace) (operation : Operation) (milliseconds : Nat) :
    (w.setLatency operation milliseconds).environment = { w.environment with hosts := { w.environment.hosts with
      latency := fun o => if o = .findSymbols then 0 else if o = operation then milliseconds
        else w.environment.hosts.latency o } } := by
  simp only [setLatency, environment, Conduct.withIndex, Environment.mk.injEq, Conduct.mk.injEq, true_and, and_true]
  funext o
  by_cases index : o = .findSymbols <;> simp [index]

/-- What hosts do to the environment depends on nothing else. -/
theorem environment_move (alone : m.IsAlone t) (still : m = .step t → w.isReady t = false)
    (still' : m = .step t → w'.isReady t = false) (same : w'.environment = w.environment) :
    (w'.move m).environment = (w.move m).environment := by
  cases m with
  | step s =>
    obtain rfl : s = t := alone
    show (w'.step s).environment = (w.step s).environment
    rw [step_of_unready (still rfl), step_of_unready (still' rfl), same]
  | wait milliseconds =>
    exact congrArg (fun e : Environment => { e with now := e.now + milliseconds }) same
  | setRefusal operation on =>
    show (w'.setRefusal operation on).environment = (w.setRefusal operation on).environment
    rw [environment_setRefusal, environment_setRefusal, same]
  | setLatency operation milliseconds =>
    show (w'.setLatency operation milliseconds).environment = (w.setLatency operation milliseconds).environment
    rw [environment_setLatency, environment_setLatency, same]
  | setVisible visible => exact same
  | _ => cases alone

theorem isActivated_move (alone : m.IsAlone t) (still : m = .step t → w.isReady t = false) :
    (w.move m).isActivated d = w.isActivated d := by
  cases m with
  | step s =>
    obtain rfl : s = t := alone
    show (w.step s).isActivated d = w.isActivated d
    rw [step_of_unready (still rfl)]
  | wait milliseconds => rfl
  | setRefusal operation on => rfl
  | setLatency operation milliseconds => rfl
  | setVisible visible => rfl
  | _ => cases alone

namespace Job.StandsAt

theorem isReady_congr (stands : j.StandsAt q w) (stands' : j'.StandsAt q w') (now : w'.now = w.now) :
    w'.isReady j'.task = w.isReady j.task := by
  have ht : w.tasks[j.task]? = some _ := stands
  have ht' : w'.tasks[j'.task]? = some _ := stands'
  cases q <;> simp [isReady, ht, ht', canRun, now]

/-- Two handlings of the same data see the same when each runs by itself in the same environment. -/
theorem surroundingsOf_congr {node' : NodeSelection} {d' : DiagramNo} (stands : j.StandsAt q w)
    (stands' : j'.StandsAt q w') (hw : Sound w) (hw' : Sound w') (task : j'.task = j.task)
    (request : j.request = .handle d node) (request' : j'.request = .handle d' node') (link : node.link = some data)
    (link' : node'.link = some data) (at' : h.At q)
    (activated : q = .starting → w.isActivated d = true ∧ w'.isActivated d' = true)
    (same : q.isEnded = true ∨ w'.environment = w.environment) (alone : ∀ m ∈ more, m.IsAlone j.task) :
    w'.surroundingsOf j.task more = w.surroundingsOf j.task more := by
  -- Along the moves: both handlings stand at `h`, and both are ready or neither is.
  induction more generalizing w w' q h with
  | nil => rfl
  | cons m more ih =>
    have rest : ∀ m ∈ more, m.IsAlone j.task := fun m mem => alone m (List.mem_cons_of_mem _ mem)
    have ready_eq (going : q.isEnded = false) : w'.isReady j.task = w.isReady j.task := by
      have same : w'.environment = w.environment := same.resolve_left (by simp [going])
      rw [← stands.isReady_congr stands' (congrArg Environment.now same), task]
    rw [surroundingsOf, surroundingsOf]
    rcases stands.move_cases hw m with ⟨rfl, ready⟩ | ⟨stays, -, still⟩
    · have same : w'.environment = w.environment := same.resolve_left (by simp [stands.going ready])
      have ready' : w'.isReady j.task = true := (ready_eq (stands.going ready)).trans ready
      have seen : w'.surroundings = w.surroundings := congrArg Environment.surroundings same
      obtain ⟨next, -, env⟩ := stands.handles ready hw request link at' fun first => (activated first).1
      obtain ⟨next', -, env'⟩ := stands'.handles (task.symm ▸ ready') hw' request' link' at' fun first =>
        (activated first).2
      rw [seen, task] at env'
      rw [seen, same, task] at next'
      rw [seenBy_of_ready ready', seenBy_of_ready ready, seen]
      congr 1
      refine ih next next' (hw.move _) (hw'.move _) (Handling.at_point _)
        (fun first => absurd first (Handling.next_begun _)) ?_ rest
      rcases env with through | env
      · rw [through]
        exact .inl rfl
      · rcases env' with through | env'
        · rw [through]
          exact .inl rfl
        · exact .inr (env'.trans (same.trans env.symm))
    · rcases stands'.move_cases hw' m with ⟨own, ready'⟩ | ⟨stays', -, still'⟩
      · have going := stands'.going ready'
        rw [task] at own ready'
        rw [ready_eq going, still own] at ready'
        cases ready'
      · rw [task] at still'
        rw [seenBy_of_still still, seenBy_of_still still']
        congr 1
        have here := alone m List.mem_cons_self
        refine ih stays stays' (hw.move m) (hw'.move m) at' ?_
          (same.imp_right (environment_move here still still')) rest
        rwa [isActivated_move here still, isActivated_move here still']

end Job.StandsAt

/-- Two requests make the same calls in two runs, and end with the same results. -/
structure Job.EndsLike (j : Job) (w : Workspace) (more : List Move) (j' : Job) (w' : Workspace) (more' : List Move) :
    Prop where
  calls : w.callsBy j.task more = w'.callsBy j'.task more'
  results : ∀ result, j.StandsAt (.ended result) (w.run more) ↔ j'.StandsAt (.ended result) (w'.run more')

/-- A diagram that is activated is about to handle a selection with some data. -/
structure Job.HandlesData (j : Job) (d : DiagramNo) (label : String) (data : Json) (w : Workspace) : Prop where
  request : j.request = .handle d (.ofData label (some data))
  stands : j.StandsAt .starting w
  activated : w.isActivated d = true

/-- What holds when the selection of a node is about to be handled. -/
structure Job.DataDecides (j : Job) (d : DiagramNo) (label : String) (data : Option Json) (w : Workspace) : Prop where
  /-- Without activation there is nothing to do, -/
  off : w.isActivated d = false → ∀ more, j.StandsAt (.ended (.ok ())) (w.run (.step j.task :: more)) ∧
    w.callsBy j.task (.step j.task :: more) = []
  /-- and an empty value makes the same request as no data. -/
  empty : ∀ v, data = some v → v.IsEmptyValue → j.request = .handle d (.ofData label none)
  /-- Other data that is malformed is reported. -/
  malformed : ∀ v m, data = some v → ¬v.IsEmptyValue → w.isActivated d = true → Location.ofJson v = .error m →
    ∀ more, j.StandsAt (.ended (.error (.malformed m))) (w.run (.step j.task :: more)) ∧
      w.callsBy j.task (.step j.task :: more) = []
  /-- No symbol is looked for: all calls are such that reveal a location. -/
  unasked : ∀ v, data = some v → ¬v.IsEmptyValue → ∀ more, ∀ c ∈ w.callsBy j.task (.step j.task :: more),
    c.reveals = true ∧ ∀ name, c ≠ .findSymbols name
  /-- Whatever labels, symbols and panes there are, the same data ends alike where each runs by itself in the same
  environment, -/
  alone : ∀ v, data = some v → ¬v.IsEmptyValue → w.isActivated d = true → ∀ (j' : Job) d' label' w',
    j'.HandlesData d' label' v w' → w'.IsReached → j'.task = j.task → w'.environment = w.environment →
    ∀ more, (∀ m ∈ more, m.IsAlone j.task) →
      j.EndsLike w (.step j.task :: more) j' w' (.step j'.task :: more)
  /-- and whatever happens in between, as long as hosts and highlights are alike when it is its turn. -/
  same : ∀ v, data = some v → ¬v.IsEmptyValue → w.isActivated d = true → ∀ (j' : Job) d' label' w',
    j'.HandlesData d' label' v w' → w'.IsReached → ∀ more more',
    w'.surroundingsOf j'.task (.step j'.task :: more') = w.surroundingsOf j.task (.step j.task :: more) →
      j.EndsLike w (.step j.task :: more) j' w' (.step j'.task :: more')

theorem NodeSelection.ofData_of_empty (label : String) (empty : data.IsEmptyValue) :
    NodeSelection.ofData label (some data) = .ofData label none := by
  rw [← Json.isPresent_eq_false_iff] at empty
  simp [NodeSelection.ofData, empty]

theorem NodeSelection.link_of_present (label : String) (present : ¬data.IsEmptyValue) :
    (NodeSelection.ofData label (some data)).link = some data :=
  link_ofData (Json.isPresent_iff.mpr present)

namespace Job.StandsAt

theorem ended_iff {h : Handling} {result : Except Problem Unit} (stands : j.StandsAt q w) (at' : h.At q) :
    j.StandsAt (.ended result) w ↔ h = .ended result := by
  constructor
  · intro ended
    exact Handling.at_ended.mp (stands.unique ended ▸ at')
  · rintro rfl
    obtain rfl : q = .ended result := at'
    exact stands

end Job.StandsAt

/-- The same data ends alike when the handlings see the same. -/
theorem Job.HandlesData.endsLike {d' : DiagramNo} {label' : String} {more' : List Move}
    (handles : j.HandlesData d label data w) (handles' : j'.HandlesData d' label' data w') (hw : Sound w)
    (hw' : Sound w') (present : ¬data.IsEmptyValue)
    (same : w'.surroundingsOf j'.task (.step j'.task :: more') = w.surroundingsOf j.task (.step j.task :: more)) :
    j.EndsLike w (.step j.task :: more) j' w' (.step j'.task :: more') := by
  obtain ⟨q, at', -, handled, calls⟩ := handles.stands.handling hw handles.request
    (NodeSelection.link_of_present label present) handles.activated more
  obtain ⟨q', at'', -, handled', calls'⟩ := handles'.stands.handling hw' handles'.request
    (NodeSelection.link_of_present label' present) handles'.activated more'
  constructor
  case calls => rw [calls, calls', same]
  case results =>
    intro result
    rw [at'.ended_iff handled, at''.ended_iff handled', same]

namespace Job.StandsAt

theorem dataDecides {data : Option Json} (stands : j.StandsAt .starting w) (hw : Sound w)
    (request : j.request = .handle d (.ofData label data)) : j.DataDecides d label data w := by
  have off (inactive : w.isActivated d = false) (more : List Move) :
      j.StandsAt (.ended (.ok ())) (w.run (.step j.task :: more)) ∧ w.callsBy j.task (.step j.task :: more) = [] :=
    stands.endsAtOnce hw (by rw [request, start, handle_of_off inactive]) more
  constructor
  case off => exact off
  case empty =>
    rintro v rfl empty
    rw [request, NodeSelection.ofData_of_empty label empty]
  case malformed =>
    rintro v m rfl present activated bad
    have link := NodeSelection.link_of_present label present
    exact stands.endsAtOnce hw (by rw [request, start, handle_eq link activated, bad])
  case unasked =>
    rintro v rfl present more c hc
    -- Switched off it makes no calls at all; else all that it makes belong to a reveal.
    have reveals : c.reveals = true := by
      cases activated : w.isActivated d with
      | false =>
        rw [(off activated more).2] at hc
        cases hc
      | true =>
        obtain ⟨q, -, -, -, calls⟩ :=
          stands.handling hw request (NodeSelection.link_of_present label present) activated more
        exact Handling.after_reveals v _ c (calls ▸ hc)
    refine ⟨reveals, ?_⟩
    rintro name rfl
    cases reveals
  case same =>
    rintro v rfl present activated j' d' label' w' other reached more more' same
    exact HandlesData.endsLike ⟨request, stands, activated⟩ other hw reached.sound present same
  case alone =>
    rintro v rfl present activated j' d' label' w' other reached task same more alone
    refine HandlesData.endsLike ⟨request, stands, activated⟩ other hw reached.sound present ?_
    rw [task]
    refine stands.surroundingsOf_congr other.stands hw reached.sound task request other.request
      (NodeSelection.link_of_present label present) (NodeSelection.link_of_present label' present) (h := .starting) rfl
      (fun _ => ⟨activated, other.activated⟩) (.inr same) ?_
    intro m mem
    rcases List.mem_cons.mp mem with rfl | mem
    · rfl
    · exact alone m mem

end Job.StandsAt

/-- Whatever goes on beside it, the data of a selected node decides how the selection is handled. -/
theorem reached_dataDecides {w : Workspace} {j : Job} {d : DiagramNo} {label : String} {data : Option Json}
    (reached : w.IsReached) (request : j.request = .handle d (.ofData label data)) (stands : j.StandsAt .starting w) :
    j.DataDecides d label data w :=
  stands.dataDecides reached.sound request

/-- Malformed data is not followed by the label, though that names a symbol that the index knows. -/
theorem malformed_dataDecides :
    let id : Url := ⟨"file:///stored.drawio", by decide +kernel⟩
    let uri : Url := ⟨"file:///stored.rs", by decide +kernel⟩
    let data : Json := .string "stored"
    let j : Job := ⟨2, .handle 0 (.ofData "#stored" (some data)), none⟩
    let w := (Workspace.new .default [uri] [⟨"stored", none, ⟨uri, ⟨⟨8, 0⟩, ⟨8, 6⟩⟩⟩⟩] (.prompt false false)).run
      [.openDiagram id (.fresh true) false true, .request j.request none]
    let unlinked := w.move (.request (.handle 0 (.ofData "#stored" none)) none)
    j.StandsAt .starting w ∧ j.DataDecides 0 "#stored" (some data) w ∧ w.isActivated 0 = true ∧
      (w.callsBy 2 [.step 2, .step 2]).length = 0 ∧
      (unlinked.callsBy 3 [.step 3, .step 3, .step 3]).length = 3 := by
  intro id uri data j w unlinked
  have stands : j.StandsAt .starting w := rfl
  exact ⟨stands, reached_dataDecides ⟨_, _, _, _, _, rfl⟩ rfl stands, by decide +kernel, by decide +kernel,
    by decide +kernel⟩

end DiagramLinks
