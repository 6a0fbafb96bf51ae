import Mathlib.Data.Nat.Find
import DiagramLinks.Proofs.Sound

namespace DiagramLinks

open Workspace

variable {d : DiagramNo} {id : Url} {moves : List Move} {m : Move} {i : Nat}

/-- Diagrams in the order of their opening, each with whether it was opened on the service. -/
def openings (moves : List Move) : List (Url × Bool) :=
  moves.filterMap fun
    | .openDiagram id _ _ onService => some (id, onService)
    | _ => none

/-- A move that opens a diagram on the service. -/
def Move.opens (id : Url) : Move → Bool
  | .openDiagram id' _ _ onService => onService && id' = id
  | _ => false

def Move.closes (id : Url) : Move → Bool
  | .closeDiagram id' => id' = id
  | _ => false

/-- Move number `i` is the first one to open `id` since it was last closed. -/
structure FirstOpening (moves : List Move) (id : Url) (i : Nat) : Prop where
  opens : ∃ m, moves[i]? = some m ∧ m.opens id = true
  kept : ∀ j m, i < j → moves[j]? = some m → m.closes id = false
  first : ∀ j m, j < i → moves[j]? = some m → m.opens id = true →
    ∃ k m', j < k ∧ k < i ∧ moves[k]? = some m' ∧ m'.closes id = true

theorem closes_of_opens (h : m.opens id = true) : m.closes id = false := by
  cases m <;> simp_all [Move.opens, Move.closes]

/-- Without a closing after it, an opening is the first one or comes after the first one. -/
theorem exists_firstOpening {j : Nat} (hj : moves[j]? = some m) (opens : m.opens id = true)
    (kept : ∀ k m', j < k → moves[k]? = some m' → m'.closes id = false) :
    ∃ i, FirstOpening moves id i := by
  classical
  -- The least opening without a closing after it is the first one.
  have some_kept : ∃ (j : Nat) (m : Move), moves[j]? = some m ∧ m.opens id = true ∧
      ∀ (k : Nat) (m' : Move), j < k → moves[k]? = some m' → m'.closes id = false :=
    ⟨j, m, hj, opens, kept⟩
  obtain ⟨m₀, h₀, opens₀, kept₀⟩ := Nat.find_spec some_kept
  refine ⟨Nat.find some_kept, ⟨m₀, h₀, opens₀⟩, kept₀, fun j' m' hlt hj' opens' => ?_⟩
  have least := Nat.find_min some_kept hlt
  push Not at least
  obtain ⟨k, m'', hk, hm'', closes⟩ := least m' hj' opens'
  rw [ne_eq, Bool.not_eq_false] at closes
  refine ⟨k, m'', hk, ?_, hm'', closes⟩
  rcases Nat.lt_trichotomy k (Nat.find some_kept) with lt | eq | gt
  · exact lt
  · rw [eq, h₀] at hm''
    obtain rfl := Option.some.inj hm''
    rw [closes_of_opens opens₀] at closes
    cases closes
  · rw [kept₀ k m'' gt hm''] at closes
    cases closes

/-- Between closings only the first opening counts. -/
theorem firstOpening_concat : FirstOpening (moves ++ [m]) id i ↔
    FirstOpening moves id i ∧ m.closes id = false ∨
      i = moves.length ∧ m.opens id = true ∧ ∀ j, ¬ FirstOpening moves id j := by
  constructor
  · rintro ⟨⟨m', hi, opens⟩, kept, first⟩
    rcases getElem?_concat.mp hi with hi | ⟨rfl, rfl⟩
    · have lt := (List.getElem?_eq_some_iff.mp hi).1
      refine .inl ⟨⟨⟨m', hi, opens⟩, ?_, ?_⟩, kept _ m lt (getElem?_concat.mpr (.inr ⟨rfl, rfl⟩))⟩
      · exact fun j m'' hj hm => kept j m'' hj (getElem?_concat.mpr (.inl hm))
      · intro j m'' hj hm opens'
        obtain ⟨k, mk, hjk, hki, hk, closes⟩ := first j m'' hj (getElem?_concat.mpr (.inl hm)) opens'
        rcases getElem?_concat.mp hk with hk | ⟨rfl, -⟩
        · exact ⟨k, mk, hjk, hki, hk, closes⟩
        · omega
    · refine .inr ⟨rfl, opens, fun j hj => ?_⟩
      -- An earlier first opening would need a closing after it, and there is none.
      obtain ⟨mj, hmj, opensj⟩ := hj.opens
      have lt := (List.getElem?_eq_some_iff.mp hmj).1
      obtain ⟨k, mk, hjk, hkl, hk, closes⟩ :=
        first j mj lt (getElem?_concat.mpr (.inl hmj)) opensj
      rcases getElem?_concat.mp hk with hk | ⟨rfl, -⟩
      · rw [hj.kept k mk hjk hk] at closes
        cases closes
      · omega
  · rintro (⟨⟨⟨m', hi, opens⟩, kept, first⟩, stays⟩ | ⟨rfl, opens, none⟩)
    · refine ⟨⟨m', getElem?_concat.mpr (.inl hi), opens⟩, fun j m'' hj hm => ?_,
        fun j m'' hj hm opens' => ?_⟩
      · rcases getElem?_concat.mp hm with hm | ⟨-, rfl⟩
        · exact kept j m'' hj hm
        · exact stays
      · have lt := (List.getElem?_eq_some_iff.mp hi).1
        rcases getElem?_concat.mp hm with hm | ⟨rfl, -⟩
        · obtain ⟨k, mk, hjk, hki, hk, closes⟩ := first j m'' hj hm opens'
          exact ⟨k, mk, hjk, hki, getElem?_concat.mpr (.inl hk), closes⟩
        · omega
    · refine ⟨⟨m, getElem?_concat.mpr (.inr ⟨rfl, rfl⟩), opens⟩, fun j m' hj hm => ?_,
        fun j m' hj hm opens' => ?_⟩
      · have lt := (List.getElem?_eq_some_iff.mp hm).1
        simp only [List.length_append, List.length_singleton] at lt
        omega
      · rcases getElem?_concat.mp hm with hm | ⟨rfl, -⟩
        · by_contra never
          push Not at never
          obtain ⟨i, hi⟩ := exists_firstOpening hm opens' fun k mk hjk hk =>
            Bool.eq_false_iff.mpr fun closes =>
              never k mk hjk (List.getElem?_eq_some_iff.mp hk).1
                (getElem?_concat.mpr (.inl hk)) closes
          exact none i hi
        · omega

theorem firstOpening_keep (opens : ∀ id, m.opens id = false) (closes : ∀ id, m.closes id = false) :
    FirstOpening (moves ++ [m]) id i ↔ FirstOpening moves id i := by
  simp [firstOpening_concat, opens, closes]

theorem openings_concat : openings (moves ++ [m]) = openings moves ++ openings [m] :=
  List.filterMap_append

/-- `a` was opened before `b`. -/
def OpenedBefore (moves : List Move) (a b : Url) : Prop :=
  ∃ i j, FirstOpening moves a i ∧ FirstOpening moves b j ∧ i < j

/-- How a registry, a focus, an active diagram and closed sessions go together after a run. -/
structure Agree (moves : List Move) (registry : List (Url × DiagramNo)) (focus recent : Option Url)
    (active : Option DiagramNo) (closed : DiagramNo → Bool) : Prop where
  nodup : (registry.map Prod.fst).Nodup
  listed : ∀ id, id ∈ registry.map Prod.fst ↔ ∃ i, FirstOpening moves id i
  ordered : (registry.map Prod.fst).Pairwise (OpenedBefore moves)
  newest : ∀ id (d : DiagramNo), (id, d) ∈ registry → (openings moves)[d]? = some (id, true) ∧
    closed d = false ∧ ∀ d', d < d' → (openings moves)[d']? ≠ some (id, true)
  replaced : ∀ (d : DiagramNo) id, (openings moves)[d]? = some (id, true) → (id, d) ∉ registry →
    closed d = true
  unfocused : active = none → focus = none
  focused : ∀ d, active = some d → ∃ id, focus = some id ∧ (id, d) ∈ registry
  last : ∀ id, focus = some id → recent = some id
  lastListed : ∀ id, recent = some id → id ∈ registry.map Prod.fst

theorem lookup_eq_some_iff {registry : List (Url × DiagramNo)}
    (nodup : (registry.map Prod.fst).Nodup) :
    registry.lookup id = some d ↔ (id, d) ∈ registry := by
  refine ⟨mem_of_lookup, fun h => ?_⟩
  induction registry with
  | nil => cases h
  | cons head rest ih =>
    obtain ⟨key, n⟩ := head
    rw [List.map_cons, List.nodup_cons] at nodup
    rcases List.mem_cons.mp h with eq | later
    · obtain ⟨rfl, rfl⟩ := Prod.mk.inj eq
      simp
    · have hm : id ∈ rest.map Prod.fst := List.mem_map_of_mem (f := Prod.fst) later
      have ne : id ≠ key := by
        rintro rfl
        exact nodup.1 hm
      rw [List.lookup_cons, beq_false_of_ne ne]
      exact ih nodup.2 later

theorem lookup_eq_none_iff {registry : List (Url × DiagramNo)} :
    registry.lookup id = none ↔ id ∉ registry.map Prod.fst := by
  rw [List.lookup_eq_none_iff]
  constructor
  · intro h hid
    obtain ⟨entry, he, rfl⟩ := List.mem_map.mp hid
    exact bne_iff_ne.mp (h entry he) rfl
  · intro h entry he
    exact bne_iff_ne.mpr fun eq => h (eq ▸ List.mem_map_of_mem (f := Prod.fst) he)

theorem mem_insert_iff {registry : List (Url × DiagramNo)} {entry : Url × DiagramNo}
    (nodup : (registry.map Prod.fst).Nodup) :
    entry ∈ Service.insert registry id d ↔ entry = (id, d) ∨ entry ∈ registry ∧ entry.1 ≠ id := by
  induction registry with
  | nil => simp [Service.insert]
  | cons head rest ih =>
    obtain ⟨key, n⟩ := head
    rw [List.map_cons, List.nodup_cons] at nodup
    unfold Service.insert
    split
    · next eq =>
      subst eq
      -- The key stands once, so the rest holds other keys.
      have absent : ∀ e ∈ rest, e.1 ≠ key := by
        rintro e he rfl
        exact nodup.1 (List.mem_map.mpr ⟨e, he, rfl⟩)
      simp only [List.mem_cons]
      constructor
      · rintro (rfl | he)
        · exact .inl rfl
        · exact .inr ⟨.inr he, absent entry he⟩
      · rintro (rfl | ⟨rfl | he, ne⟩)
        · exact .inl rfl
        · exact absurd rfl ne
        · exact .inr he
    · next ne =>
      rw [List.mem_cons, ih nodup.2, List.mem_cons]
      constructor
      · rintro (rfl | rfl | ⟨he, hne⟩)
        · exact .inr ⟨.inl rfl, ne⟩
        · exact .inl rfl
        · exact .inr ⟨.inr he, hne⟩
      · rintro (rfl | ⟨rfl | he, hne⟩)
        · exact .inr (.inl rfl)
        · exact .inl rfl
        · exact .inr (.inr ⟨he, hne⟩)

theorem keys_insert {registry : List (Url × DiagramNo)} :
    (Service.insert registry id d).map Prod.fst =
      if id ∈ registry.map Prod.fst then registry.map Prod.fst
      else registry.map Prod.fst ++ [id] := by
  induction registry with
  | nil => simp [Service.insert]
  | cons head rest ih =>
    obtain ⟨key, n⟩ := head
    unfold Service.insert
    split
    · next eq => simp [eq]
    · next ne =>
      rw [List.map_cons, ih]
      by_cases hid : id ∈ rest.map Prod.fst <;> simp_all [eq_comm]

theorem mem_keys_insert {registry : List (Url × DiagramNo)} {id' : Url} :
    id' ∈ (Service.insert registry id d).map Prod.fst ↔ id' ∈ registry.map Prod.fst ∨ id' = id := by
  rw [keys_insert]
  split
  · next known => exact ⟨.inl, fun h => h.elim (·) fun eq => eq ▸ known⟩
  · rw [List.mem_append, List.mem_singleton]

theorem nodup_keys_insert {registry : List (Url × DiagramNo)}
    (nodup : (registry.map Prod.fst).Nodup) : ((Service.insert registry id d).map Prod.fst).Nodup := by
  rw [keys_insert]
  split
  · exact nodup
  · next new =>
    refine List.nodup_append.mpr ⟨nodup, List.pairwise_singleton _ _, ?_⟩
    rintro x hx y hy rfl
    exact new (List.mem_singleton.mp hy ▸ hx)

namespace Agree

variable {registry : List (Url × DiagramNo)} {focus recent : Option Url} {active : Option DiagramNo}
  {closed closed' : DiagramNo → Bool}

theorem openedBefore_mono {x y : Url} (h : OpenedBefore moves x y) (hx : m.closes x = false)
    (hy : m.closes y = false) : OpenedBefore (moves ++ [m]) x y := by
  obtain ⟨i, j, hi, hj, lt⟩ := h
  exact ⟨i, j, firstOpening_concat.mpr (.inl ⟨hi, hx⟩), firstOpening_concat.mpr (.inl ⟨hj, hy⟩), lt⟩

theorem lt_length (h : FirstOpening moves id i) : i < moves.length := by
  obtain ⟨m, hm, -⟩ := h.opens
  exact (List.getElem?_eq_some_iff.mp hm).1

theorem mem_keys {entry : Url × DiagramNo} (h : entry ∈ registry) :
    entry.1 ∈ registry.map Prod.fst :=
  List.mem_map.mpr ⟨entry, h, rfl⟩

theorem entry_unique (h : Agree moves registry focus recent active closed) {d' : DiagramNo}
    (hd : (id, d) ∈ registry) (hd' : (id, d') ∈ registry) : d = d' := by
  rw [← lookup_eq_some_iff h.nodup] at hd hd'
  exact Option.some.inj (hd.symm.trans hd')

theorem id_unique (h : Agree moves registry focus recent active closed) {id' : Url}
    (hd : (id, d) ∈ registry) (hd' : (id', d) ∈ registry) : id = id' := by
  have eq := (h.newest id d hd).1.symm.trans (h.newest id' d hd').1
  exact (Prod.mk.inj (Option.some.inj eq)).1

theorem lt_openings (h : Agree moves registry focus recent active closed)
    (hd : (id, d) ∈ registry) : d < (openings moves).length :=
  (List.getElem?_eq_some_iff.mp (h.newest id d hd).1).1

theorem keep (h : Agree moves registry focus recent active closed)
    (opens : ∀ id, m.opens id = false) (closes : ∀ id, m.closes id = false)
    (none : openings [m] = []) : Agree (moves ++ [m]) registry focus recent active closed := by
  have same : openings (moves ++ [m]) = openings moves := by
    rw [openings_concat, none, List.append_nil]
  constructor
  case listed =>
    intro id
    rw [h.listed]
    simp only [firstOpening_keep opens closes]
  case ordered => exact h.ordered.imp fun hb => openedBefore_mono hb (closes _) (closes _)
  case newest => exact same ▸ h.newest
  case replaced => exact same ▸ h.replaced
  all_goals first
    | exact h.nodup
    | exact h.unfocused
    | exact h.focused
    | exact h.last
    | exact h.lastListed

/-- A session that is not registered is closed. -/
theorem release (h : Agree moves registry focus recent active closed)
    (unregistered : ∀ id, (id, d) ∉ registry) (hc : ∀ e, closed' e = (closed e || e == d)) :
    Agree moves registry focus recent active closed' :=
  { h with
    newest := fun id e he => by
      obtain ⟨opened, alive, newest⟩ := h.newest id e he
      have ne : e ≠ d := by
        rintro rfl
        exact unregistered id he
      exact ⟨opened, by simp [hc, alive, ne], newest⟩
    replaced := fun e id he hn => by simp [hc, h.replaced e id he hn] }

theorem opening_concat (entry : Url × Bool) (hm : openings [m] = [entry]) {e : DiagramNo}
    {entry' : Url × Bool} :
    (openings (moves ++ [m]))[e]? = some entry' ↔
      (openings moves)[e]? = some entry' ∨ e = (openings moves).length ∧ entry = entry' := by
  rw [openings_concat, hm, getElem?_concat]

theorem own (h : Agree moves registry focus recent active closed) (choice : StoreChoice)
    (hasNode : Bool) (same : ∀ e < (openings moves).length, closed' e = closed e) :
    Agree (moves ++ [.openDiagram id choice hasNode false]) registry focus recent active closed' := by
  have opens (id' : Url) : (Move.openDiagram id choice hasNode false).opens id' = false := rfl
  have closes (id' : Url) : (Move.openDiagram id choice hasNode false).closes id' = false := rfl
  have numbered {e : DiagramNo} {id' : Url} :
      (openings (moves ++ [.openDiagram id choice hasNode false]))[e]? = some (id', true) ↔
        (openings moves)[e]? = some (id', true) := by
    rw [opening_concat (id, false) rfl]
    simp
  constructor
  case listed =>
    intro id'
    rw [h.listed]
    simp only [firstOpening_keep opens closes]
  case ordered => exact h.ordered.imp fun hb => openedBefore_mono hb (closes _) (closes _)
  case newest =>
    intro id' e he
    obtain ⟨opened, alive, newest⟩ := h.newest id' e he
    exact ⟨numbered.mpr opened, by rw [same e (h.lt_openings he), alive],
      fun d' hd' => fun h' => newest d' hd' (numbered.mp h')⟩
  case replaced =>
    intro e id' he hn
    have old := numbered.mp he
    rw [same e (List.getElem?_eq_some_iff.mp old).1]
    exact h.replaced e id' old hn
  all_goals first
    | exact h.nodup
    | exact h.unfocused
    | exact h.focused
    | exact h.last
    | exact h.lastListed

theorem opens_iff {choice : StoreChoice} {hasNode : Bool} {id' : Url} :
    (Move.openDiagram id choice hasNode true).opens id' = true ↔ id = id' := by
  simp [Move.opens]

/-- Listed are a diagram that is opened now and those listed before. -/
theorem listed_opening (h : Agree moves registry focus recent active closed) (choice : StoreChoice)
    (hasNode : Bool) (id' : Url) :
    id' ∈ (Service.insert registry id d).map Prod.fst ↔
      ∃ i, FirstOpening (moves ++ [.openDiagram id choice hasNode true]) id' i := by
  have closes : (Move.openDiagram id choice hasNode true).closes id' = false := rfl
  rw [mem_keys_insert, h.listed]
  simp only [firstOpening_concat, closes, and_true, opens_iff]
  constructor
  · rintro (⟨i, hi⟩ | rfl)
    · exact ⟨i, .inl hi⟩
    · by_cases known : ∃ i, FirstOpening moves id' i
      · exact known.imp fun i hi => .inl hi
      · exact ⟨_, .inr ⟨rfl, rfl, not_exists.mp known⟩⟩
  · rintro ⟨i, hi | ⟨-, rfl, -⟩⟩
    · exact .inl ⟨i, hi⟩
    · exact .inr rfl

/-- A diagram that is opened now comes last, unless it has its place. -/
theorem ordered_opening (h : Agree moves registry focus recent active closed) (choice : StoreChoice)
    (hasNode : Bool) : ((Service.insert registry id d).map Prod.fst).Pairwise
      (OpenedBefore (moves ++ [.openDiagram id choice hasNode true])) := by
  have closes (id' : Url) : (Move.openDiagram id choice hasNode true).closes id' = false := rfl
  have old := h.ordered.imp fun hb => openedBefore_mono hb (closes _) (closes _)
  rw [keys_insert]
  split
  · exact old
  · next new =>
    refine List.pairwise_append.mpr ⟨old, List.pairwise_singleton _ _, fun x hx y hy => ?_⟩
    obtain rfl := List.mem_singleton.mp hy
    obtain ⟨i, hi⟩ := (h.listed x).mp hx
    refine ⟨i, moves.length, firstOpening_concat.mpr (.inl ⟨hi, closes x⟩), ?_, lt_length hi⟩
    exact firstOpening_concat.mpr
      (.inr ⟨rfl, opens_iff.mpr rfl, fun j hj => new ((h.listed y).mpr ⟨j, hj⟩)⟩)

/-- A diagram is opened on the service. If it was open before, its old session is closed, and the new
one takes its place when it is active. -/
theorem opening (h : Agree moves registry focus recent active closed) (choice : StoreChoice)
    (hasNode : Bool) (hd : d = (openings moves).length)
    (same : ∀ e < d, closed' e = (closed e || registry.lookup id == some e))
    (alive : closed' d = false) :
    Agree (moves ++ [.openDiagram id choice hasNode true]) (Service.insert registry id d) focus recent
      (if (registry.lookup id).isSome ∧ focus = some id then some d else active) closed' := by
  have numbered {e : DiagramNo} {id' : Url} :
      (openings (moves ++ [.openDiagram id choice hasNode true]))[e]? = some (id', true) ↔
        (openings moves)[e]? = some (id', true) ∨ e = d ∧ id = id' := by
    rw [opening_concat (id, true) rfl, hd]
    simp
  have entry {e : DiagramNo} {id' : Url} : (id', e) ∈ Service.insert registry id d ↔
      id' = id ∧ e = d ∨ (id', e) ∈ registry ∧ id' ≠ id := by
    rw [mem_insert_iff h.nodup, Prod.mk.injEq]
  -- The focus names a registered diagram, so opening that one replaces its session.
  have reopened : focus = some id → (registry.lookup id).isSome := by
    intro hf
    rw [Option.isSome_iff_ne_none, Ne, lookup_eq_none_iff, not_not]
    exact h.lastListed id (h.last id hf)
  constructor
  case nodup => exact nodup_keys_insert h.nodup
  case listed => exact h.listed_opening choice hasNode
  case ordered => exact h.ordered_opening choice hasNode
  case newest =>
    intro id' e he
    rcases entry.mp he with ⟨rfl, rfl⟩ | ⟨he, ne⟩
    · refine ⟨numbered.mpr (.inr ⟨rfl, rfl⟩), alive, fun d' hd' h' => ?_⟩
      rcases numbered.mp h' with h' | ⟨rfl, -⟩
      · have lt := (List.getElem?_eq_some_iff.mp h').1
        exact absurd (hd ▸ lt) (Nat.lt_asymm hd')
      · exact absurd hd' (Nat.lt_irrefl _)
    · obtain ⟨opened, running, newest⟩ := h.newest id' e he
      -- The session that is closed is the one registered under `id`, not this one.
      have other : registry.lookup id ≠ some e := fun hl => ne (h.id_unique he (mem_of_lookup hl))
      refine ⟨numbered.mpr (.inl opened), ?_, fun d' hd' h' => ?_⟩
      · rw [same e (hd ▸ h.lt_openings he), running]
        simpa using other
      · rcases numbered.mp h' with h' | ⟨-, rfl⟩
        · exact newest d' hd' h'
        · exact ne rfl
  case replaced =>
    intro e id' he hn
    rcases numbered.mp he with he | ⟨rfl, rfl⟩
    · rw [same e (hd ▸ (List.getElem?_eq_some_iff.mp he).1)]
      by_cases hm : (id', e) ∈ registry
      · have eq : id' = id := by
          by_contra ne
          exact hn (entry.mpr (.inr ⟨hm, ne⟩))
        subst eq
        simp [(lookup_eq_some_iff h.nodup).mpr hm]
      · simp [h.replaced e id' he hm]
    · exact absurd (entry.mpr (.inl ⟨rfl, rfl⟩)) hn
  case unfocused =>
    intro ha
    split at ha
    · cases ha
    · exact h.unfocused ha
  case focused =>
    intro e he
    split at he
    · next hf =>
      obtain rfl := Option.some.inj he
      exact ⟨id, hf.2, entry.mpr (.inl ⟨rfl, rfl⟩)⟩
    · next hf =>
      obtain ⟨id', hf', he'⟩ := h.focused e he
      refine ⟨id', hf', entry.mpr (.inr ⟨he', ?_⟩)⟩
      rintro rfl
      exact hf ⟨reopened hf', hf'⟩
  case last => exact h.last
  case lastListed => exact fun id' hl => mem_keys_insert.mpr (.inl (h.lastListed id' hl))

/-- A diagram is closed and forgotten. -/
theorem close (h : Agree moves registry focus recent active closed) (hd : (id, d) ∈ registry)
    (hc : ∀ e, closed' e = (closed e || e == d)) :
    Agree (moves ++ [.closeDiagram id]) (registry.filter (·.1 != id))
      (if focus = some id then none else focus) (if recent = some id then none else recent)
      (if focus = some id then none else active) closed' := by
  have same : openings (moves ++ [.closeDiagram id]) = openings moves :=
    openings_concat.trans (List.append_nil _)
  have closes {id' : Url} : (Move.closeDiagram id).closes id' = false ↔ id' ≠ id := by
    simp [Move.closes, eq_comm]
  have entry {id' : Url} {e : DiagramNo} :
      (id', e) ∈ registry.filter (·.1 != id) ↔ (id', e) ∈ registry ∧ id' ≠ id := by
    rw [List.mem_filter, bne_iff_ne]
  have keys : (registry.filter (·.1 != id)).map Prod.fst =
      (registry.map Prod.fst).filter (· != id) := by
    rw [List.filter_map]
    rfl
  have key {id' : Url} : id' ∈ (registry.filter (·.1 != id)).map Prod.fst ↔
      id' ∈ registry.map Prod.fst ∧ id' ≠ id := by
    rw [keys, List.mem_filter, bne_iff_ne]
  constructor
  case nodup => exact keys ▸ h.nodup.filter _
  case listed =>
    intro id'
    rw [key, h.listed]
    simp [firstOpening_concat, closes, Move.opens]
  case ordered =>
    rw [keys]
    refine (h.ordered.filter _).imp_of_mem fun hx hy hb => openedBefore_mono hb ?_ ?_
    · exact closes.mpr (bne_iff_ne.mp (List.mem_filter.mp hx).2)
    · exact closes.mpr (bne_iff_ne.mp (List.mem_filter.mp hy).2)
  -- The registry has one entry for a session, so what is left belongs to others than `d`.
  case newest =>
    intro id' e he
    obtain ⟨he, ne⟩ := entry.mp he
    obtain ⟨opened, running, newest⟩ := h.newest id' e he
    have other : e ≠ d := by
      rintro rfl
      exact ne (h.id_unique he hd)
    exact ⟨same ▸ opened, by simp [hc, running, other], same ▸ newest⟩
  case replaced =>
    intro e id' he hn
    rw [same] at he
    by_cases hm : (id', e) ∈ registry
    -- An entry that was there and is gone is the one that was closed.
    · have eq : id' = id := by
        by_contra ne
        exact hn (entry.mpr ⟨hm, ne⟩)
      subst eq
      simp [hc, h.entry_unique hm hd]
    · simp [hc, h.replaced e id' he hm]
  case unfocused =>
    intro ha
    split
    · rfl
    · next hf => exact h.unfocused (by rwa [if_neg hf] at ha)
  case focused =>
    intro e he
    split at he
    · cases he
    · next hf =>
      obtain ⟨id', hf', he'⟩ := h.focused e he
      refine ⟨id', by rw [if_neg hf, hf'], entry.mpr ⟨he', ?_⟩⟩
      rintro rfl
      exact hf hf'
  case last =>
    intro id' hf
    split at hf
    · cases hf
    · next hn =>
      have ne : id' ≠ id := by
        rintro rfl
        exact hn hf
      rw [h.last id' hf, if_neg (by simpa using ne)]
  case lastListed =>
    intro id' hl
    split at hl
    · cases hl
    · next hn =>
      refine key.mpr ⟨h.lastListed id' hl, ?_⟩
      rintro rfl
      exact hn hl

/-- Closing a diagram that is not registered does nothing. -/
theorem close_unknown (h : Agree moves registry focus recent active closed)
    (unknown : id ∉ registry.map Prod.fst) :
    Agree (moves ++ [.closeDiagram id]) registry focus recent active closed := by
  have same : openings (moves ++ [.closeDiagram id]) = openings moves :=
    openings_concat.trans (List.append_nil _)
  have closes {id' : Url} (hid : id' ∈ registry.map Prod.fst) :
      (Move.closeDiagram id).closes id' = false := by
    have ne : id ≠ id' := by
      rintro rfl
      exact unknown hid
    simpa [Move.closes] using ne
  constructor
  case listed =>
    intro id'
    rw [h.listed]
    simp only [firstOpening_concat, Move.opens, Bool.false_eq_true, false_and, and_false, or_false]
    refine exists_congr fun i => ⟨fun hi => ⟨hi, closes ((h.listed id').mpr ⟨i, hi⟩)⟩, And.left⟩
  case ordered =>
    exact h.ordered.imp_of_mem fun hx hy hb => openedBefore_mono hb (closes hx) (closes hy)
  case newest => exact same ▸ h.newest
  case replaced => exact same ▸ h.replaced
  all_goals first
    | exact h.nodup
    | exact h.unfocused
    | exact h.focused
    | exact h.last
    | exact h.lastListed

/-- The focus moves to a registered diagram or away from all. -/
theorem refocus (h : Agree moves registry focus recent active closed)
    (target : Option (Url × DiagramNo)) (known : ∀ entry, target = some entry → entry ∈ registry) :
    Agree moves registry (target.map Prod.fst) ((target.map Prod.fst).or recent)
      (target.map Prod.snd) closed :=
  { h with
    unfocused := fun ha => by simpa using ha
    focused := fun e he => by
      obtain ⟨⟨id, e⟩, ht, rfl⟩ := Option.map_eq_some_iff.mp he
      exact ⟨id, by rw [ht]; rfl, known _ ht⟩
    last := fun id hf => by rw [hf, Option.some_or]
    lastListed := fun id hl => by
      cases ht : target with
      | none => exact h.lastListed id (by simpa [ht] using hl)
      | some entry =>
        rw [ht] at hl
        obtain rfl := Option.some.inj hl
        exact mem_keys (known entry ht) }

end Agree

end DiagramLinks
