import Mathlib.Data.List.Induction
import DiagramLinks.Proofs.Openings

namespace DiagramLinks

open Workspace

variable {a : Author} {authors : List Author} {w w' : Workspace} {d : DiagramNo} {id : Url}
  {moves : List Move} {m : Move}

/-- The ids of the registered diagrams, in their order. -/
def Workspace.registered (w : Workspace) : List Url :=
  w.service.registry.map Prod.fst

/-- How the registry, the sessions and the focus go together after a run. -/
structure RegistryAgrees (moves : List Move) (w : Workspace) : Prop where
  /-- Registered are the diagrams that were opened and not closed since. -/
  listed : ∀ id, id ∈ w.registered ↔ ∃ i, FirstOpening moves id i
  /-- They keep the order of their first opening. -/
  ordered : w.registered.Pairwise fun a b =>
    ∃ i j, FirstOpening moves a i ∧ FirstOpening moves b j ∧ i < j
  nodup : w.registered.Nodup
  /-- Diagrams have the numbers of their openings. -/
  numbered : w.diagrams.map Diagram.id = (openings moves).map Prod.fst
  /-- A registered diagram has one session that is not closed, its newest. -/
  newest : ∀ id ∈ w.registered, ∃ d, w.service.registry.lookup id = some d ∧
    (openings moves)[d]? = some (id, true) ∧ w.isClosed d = false ∧
    ∀ d', (openings moves)[d']? = some (id, true) → d' ≠ d → d' < d ∧ w.isClosed d' = true
  /-- The sessions of a diagram that was removed are closed. -/
  removed : ∀ (d : DiagramNo) id, (openings moves)[d]? = some (id, true) → id ∉ w.registered →
    w.isClosed d = true
  /-- The focus names the active diagram. -/
  focus : w.service.focus.active =
    w.service.active.value.bind fun d => w.diagrams[d]?.map Diagram.id
  /-- The active diagram is the one that is registered under its name. -/
  active : ∀ d, w.service.active.value = some d →
    ∃ id, w.service.focus.active = some id ∧ w.service.registry.lookup id = some d
  last : ∀ id, w.service.focus.active = some id → w.service.focus.lastActive = some id
  lastListed : ∀ id, w.service.focus.lastActive = some id → id ∈ w.registered

theorem Change.held_of (h : Change a w w') (held : w'.service.held = true) :
    w.service.held = true := by
  by_cases ha : a = .service
  · subst ha
    cases h with
    | release d =>
      obtain ⟨tasks, he, -⟩ := releaseSession_eq w d
      rwa [he] at held
    | endService =>
      obtain ⟨tasks, he, -⟩ := endService_eq w
      rwa [he] at held
    | letGo => cases held
    | _ => exact held
  · obtain ⟨settings, editor, he⟩ := h.service_eq ha
    rwa [he] at held

theorem Chain.held_of (h : Chain authors w w') (held : w'.service.held = true) :
    w.service.held = true := by
  induction h with
  | refl => exact held
  | tail _ hc ih =>
    obtain ⟨a, -, hc⟩ := hc
    exact ih (hc.held_of held)

structure SameRegistry (w w' : Workspace) : Prop where
  registry : w'.service.registry = w.service.registry
  focus : w'.service.focus.active = w.service.focus.active
  recent : w'.service.focus.lastActive = w.service.focus.lastActive
  active : w'.service.active = w.service.active
  closed : w'.isClosed = w.isClosed
  ids : w'.diagrams.map Diagram.id = w.diagrams.map Diagram.id

theorem SameRegistry.refl (w : Workspace) : SameRegistry w w := ⟨rfl, rfl, rfl, rfl, rfl, rfl⟩

theorem SameRegistry.trans {w'' : Workspace} (h : SameRegistry w w') (h' : SameRegistry w' w'') :
    SameRegistry w w'' :=
  ⟨h'.registry.trans h.registry, h'.focus.trans h.focus, h'.recent.trans h.recent,
    h'.active.trans h.active, h'.closed.trans h.closed, h'.ids.trans h.ids⟩

theorem Change.ids_eq (h : Change a w w') (ha : a ≠ .opening) :
    w'.diagrams.map Diagram.id = w.diagrams.map Diagram.id := by
  apply List.ext_getElem?
  intro d
  rw [List.getElem?_map, List.getElem?_map]
  cases hx : w'.diagrams[d]? with
  | none =>
    have le := List.getElem?_eq_none_iff.mp hx
    rw [h.diagrams_length ha] at le
    rw [List.getElem?_eq_none_iff.mpr le]
  | some x' =>
    obtain ⟨x, hx, hc⟩ := h.diagram_before ha hx
    rw [hx]
    cases hc <;> rfl

theorem Sound.isClosed_eq (hw : Sound w) (h : Change a w w') (ha : a ≠ .opening)
    (ha' : a ≠ .service) : w'.isClosed = w.isClosed := by
  funext d
  simp only [isClosed]
  cases hx : w'.diagrams[d]? with
  | none =>
    have le := List.getElem?_eq_none_iff.mp hx
    rw [h.diagrams_length ha] at le
    rw [List.getElem?_eq_none_iff.mpr le]
  | some x' =>
    obtain ⟨x, hx, hc⟩ := h.diagram_before ha hx
    rw [hx]
    cases hc with
    | endSession hr ending =>
      obtain ⟨rfl, -⟩ := hw.roster.session _ _ _ (spawned_of_task hr)
      rfl
    | release => exact absurd rfl ha'
    | _ => rfl

theorem Sound.sameRegistry (hw : Sound w) (h : Change a w w') (ha : a ≠ .opening)
    (ha' : a ≠ .service) : SameRegistry w w' := by
  obtain ⟨settings, editor, he⟩ := h.service_eq ha'
  exact ⟨by rw [he], by rw [he], by rw [he], by rw [he], hw.isClosed_eq h ha ha', h.ids_eq ha⟩

/-- Without the service and an opening, registry, focus and sessions stay the same. -/
theorem Chain.sameRegistry (h : Chain authors w w') (hw : Sound w) (opening : Author.opening ∉ authors)
    (service : Author.service ∉ authors) : SameRegistry w w' := by
  have kept := h.keeps (P := fun u => Sound u ∧ SameRegistry w u) ⟨hw, .refl w⟩ fun a ha u u' hu hc =>
    ⟨hu.1.change hc, hu.2.trans (hu.1.sameRegistry hc (fun e => opening (e ▸ ha))
      fun e => service (e ▸ ha))⟩
  exact kept.2

namespace Workspace

theorem releaseSession_isClosed (w : Workspace) (d e : DiagramNo) :
    (w.releaseSession d).isClosed e = (w.isClosed e || e == d) := by
  obtain ⟨tasks, he, -⟩ := releaseSession_eq w d
  rw [he]
  simp only [isClosed, List.getElem?_modify]
  by_cases eq : d = e
  · subst eq
    cases w.diagrams[d]? with
    | none => rfl
    | some x => simp [Scope.release, Scope.isReleased, Scope.isCancelled, Scope.cancel, Scope.root]
  · have ne : (e == d) = false := beq_false_of_ne (Ne.symm eq)
    simp [eq, ne]

theorem closeSession_isClosed (w : Workspace) (d e : DiagramNo) :
    (w.closeSession d).isClosed e = (w.isClosed e || e == d) := by
  obtain ⟨notes, -, he⟩ := closeSession_eq w d
  rw [he]
  exact releaseSession_isClosed _ d e

theorem closeSession_ids (w : Workspace) (d : DiagramNo) :
    (w.closeSession d).diagrams.map Diagram.id = w.diagrams.map Diagram.id := by
  obtain ⟨notes, -, he⟩ := closeSession_eq w d
  rw [he]
  exact (Change.release d).ids_eq (by simp)

theorem openDiagram_isClosed (w : Workspace) (id : Url) (choice : StoreChoice) (hasNode : Bool)
    (e : DiagramNo) :
    (w.openDiagram id choice hasNode).isClosed e = (w.isClosed e && e != w.diagrams.length) := by
  obtain ⟨stores, store, -, he⟩ := openDiagram_eq w id choice hasNode
  rw [he]
  simp only [isClosed]
  rcases Nat.lt_trichotomy e w.diagrams.length with lt | rfl | gt
  · simp [List.getElem?_append_left lt, Nat.ne_of_lt lt]
  · simp [Scope.isReleased, Scope.isCancelled]
  · rw [List.getElem?_eq_none (by rw [List.length_append]; exact gt),
      List.getElem?_eq_none (Nat.le_of_lt gt)]
    simp [Nat.ne_of_gt gt]

theorem register_service (w : Workspace) (id : Url) (d : DiagramNo) :
    (w.register id d).service =
      { w.service with
        registry := Service.insert w.service.registry id d
        active :=
          if (w.service.registry.lookup id).isSome ∧ w.service.focus.active = some id then
            w.service.active.replace (some d)
          else w.service.active } := by
  unfold register
  dsimp only
  split
  · next hl => simp [hl, updateService]
  · next old hl =>
    have hf : ((w.updateService fun s =>
        { s with registry := Service.insert s.registry id d }).closeSession old).service =
        { w.service with registry := Service.insert w.service.registry id d } :=
      closeSession_service _ old
    split
    · next focused =>
      rw [hf] at focused
      have focused : w.service.focus.active = some id := focused
      have known : (w.service.registry.lookup id).isSome = true := by
        rw [hl]
        rfl
      rw [if_pos ⟨known, focused⟩]
      simp only [updateService] at hf ⊢
      rw [hf]
    · next unfocused =>
      rw [hf] at unfocused ⊢
      simp [unfocused]

theorem register_isClosed (w : Workspace) (id : Url) (d e : DiagramNo) :
    (w.register id d).isClosed e = (w.isClosed e || w.service.registry.lookup id == some e) := by
  unfold register
  dsimp only
  split
  · next hl => simp [hl, updateService, isClosed]
  · next old hl =>
    have hc := closeSession_isClosed
      (w.updateService fun s => { s with registry := Service.insert s.registry id d }) old e
    have eq : (some old == some e) = (e == old) := by
      rw [Bool.eq_iff_iff, beq_iff_eq, beq_iff_eq, Option.some.injEq, eq_comm]
    rw [hl, eq]
    split
    · exact hc
    · exact hc

theorem register_ids (w : Workspace) (id : Url) (d : DiagramNo) :
    (w.register id d).diagrams.map Diagram.id = w.diagrams.map Diagram.id := by
  unfold register
  dsimp only
  split
  · rfl
  · next old _ =>
    split
    · exact closeSession_ids _ old
    · exact closeSession_ids _ old

theorem closeDiagram_unknown (w : Workspace) (hl : w.service.registry.lookup id = none) :
    (w.closeDiagram id).1 = w := by
  simp only [closeDiagram, hl]

theorem closeDiagram_service (w : Workspace) (hl : w.service.registry.lookup id = some d) :
    (w.closeDiagram id).1.service =
      { w.service with
        registry := w.service.registry.filter (·.1 != id)
        focus :=
          { w.service.focus with
            active := if w.service.focus.active = some id then none else w.service.focus.active
            lastActive :=
              if w.service.focus.lastActive = some id then none else w.service.focus.lastActive }
        active :=
          if w.service.focus.active = some id then w.service.active.replace none
          else w.service.active } := by
  have hf : ((w.updateService fun s =>
      { s with registry := s.registry.filter (·.1 != id) }).closeSession d).service =
      { w.service with registry := w.service.registry.filter (·.1 != id) } :=
    closeSession_service _ d
  simp only [closeDiagram, hl]
  split
  · next focused =>
    rw [hf] at focused
    have focused : w.service.focus.active = some id := focused
    simp only [updateService, focused, if_true] at hf ⊢
    simp only [hf]
  · next unfocused =>
    rw [hf] at unfocused
    have unfocused : w.service.focus.active ≠ some id := unfocused
    simp only [updateService, unfocused, if_false] at hf ⊢
    simp only [hf]

theorem closeDiagram_isClosed (w : Workspace) (hl : w.service.registry.lookup id = some d)
    (e : DiagramNo) : (w.closeDiagram id).1.isClosed e = (w.isClosed e || e == d) := by
  have hc := closeSession_isClosed
    (w.updateService fun s => { s with registry := s.registry.filter (·.1 != id) }) d e
  simp only [closeDiagram, hl]
  split
  · exact hc
  · exact hc

theorem closeDiagram_ids (w : Workspace) (id : Url) :
    (w.closeDiagram id).1.diagrams.map Diagram.id = w.diagrams.map Diagram.id := by
  unfold closeDiagram
  split
  · rfl
  · next d _ =>
    dsimp only
    split
    · exact closeSession_ids _ d
    · exact closeSession_ids _ d

theorem stepAuthors_of_held (held : w.service.held = true) (t : TaskNo) :
    Author.opening ∉ w.stepAuthors t ∧ Author.service ∉ w.stepAuthors t := by
  unfold stepAuthors
  split <;> simp [jobAuthors, held, working, answering]

theorem move_of_held (held : w.service.held = true) (m : Move) : w.move m = w.carryOut m := by
  simp [move, held]

end Workspace

/-- How registry, focus and sessions go together after a run, and which diagrams there are. -/
structure Agrees (moves : List Move) (w : Workspace) : Prop where
  agree : Agree moves w.service.registry w.service.focus.active w.service.focus.lastActive
    w.service.active.value w.isClosed
  numbered : w.diagrams.map Diagram.id = (openings moves).map Prod.fst

namespace Agrees

theorem length_eq (h : Agrees moves w) : w.diagrams.length = (openings moves).length := by
  simpa using congrArg List.length h.numbered

theorem same (h : Agrees moves w) (hs : SameRegistry w w') : Agrees moves w' where
  agree := by
    rw [hs.registry, hs.focus, hs.recent, hs.active, hs.closed]
    exact h.agree
  numbered := hs.ids.trans h.numbered

theorem keep (h : Agrees moves w) (opens : ∀ id, m.opens id = false)
    (closes : ∀ id, m.closes id = false) (none : openings [m] = []) : Agrees (moves ++ [m]) w where
  agree := h.agree.keep opens closes none
  numbered := by rw [h.numbered, openings_concat, none, List.append_nil]

theorem opening (h : Agrees moves w) (id : Url) (choice : StoreChoice) (hasNode onService : Bool) :
    Agrees (moves ++ [.openDiagram id choice hasNode onService])
      (w.carryOut (.openDiagram id choice hasNode onService)) := by
  obtain ⟨stores, store, -, he⟩ := openDiagram_eq w id choice hasNode
  have service : (w.openDiagram id choice hasNode).service = w.service := by rw [he]
  have ids : (w.openDiagram id choice hasNode).diagrams.map Diagram.id =
      w.diagrams.map Diagram.id ++ [id] := by simp [he]
  have closed := openDiagram_isClosed w id choice hasNode
  have numbered : w.diagrams.map Diagram.id ++ [id] =
      (openings (moves ++ [.openDiagram id choice hasNode onService])).map Prod.fst := by
    rw [openings_concat, List.map_append, h.numbered]
    rfl
  have old {e : DiagramNo} (lt : e < w.diagrams.length) :
      (w.openDiagram id choice hasNode).isClosed e = w.isClosed e := by
    rw [closed, bne_iff_ne.mpr (Nat.ne_of_lt lt), Bool.and_true]
  cases onService with
  | false =>
    refine ⟨?_, ids.trans numbered⟩
    show Agree _ (w.openDiagram id choice hasNode).service.registry
      (w.openDiagram id choice hasNode).service.focus.active
      (w.openDiagram id choice hasNode).service.focus.lastActive
      (w.openDiagram id choice hasNode).service.active.value (w.openDiagram id choice hasNode).isClosed
    rw [service]
    exact h.agree.own choice hasNode fun e lt => old (h.length_eq ▸ lt)
  | true =>
    have closed' (e : DiagramNo) :
        ((w.openDiagram id choice hasNode).register id w.diagrams.length).isClosed e =
          ((w.openDiagram id choice hasNode).isClosed e ||
            w.service.registry.lookup id == some e) := by
      rw [register_isClosed, service]
    refine ⟨?_, (register_ids _ id _).trans (ids.trans numbered)⟩
    -- The new number is not in the registry, so registering it closes another session.
    have alive : ((w.openDiagram id choice hasNode).register id w.diagrams.length).isClosed
        w.diagrams.length = false := by
      rw [closed', closed, bne_self_eq_false, Bool.and_false, Bool.false_or, beq_eq_false_iff_ne]
      intro hl
      exact absurd (h.agree.lt_openings (mem_of_lookup hl)) (h.length_eq ▸ Nat.lt_irrefl _)
    have ha := h.agree.opening choice hasNode h.length_eq
      (fun e lt => (closed' e).trans (by rw [old lt])) alive
    simp only [carryOut, if_true, register_service, service]
    convert ha using 1
    split <;> rfl

theorem closing (h : Agrees moves w) (id : Url) :
    Agrees (moves ++ [.closeDiagram id]) (w.closeDiagram id).1 where
  agree := by
    cases hl : w.service.registry.lookup id with
    | none =>
      rw [closeDiagram_unknown w hl]
      exact h.agree.close_unknown (lookup_eq_none_iff.mp hl)
    | some d =>
      rw [closeDiagram_service w hl]
      have ha := h.agree.close (mem_of_lookup hl) (closeDiagram_isClosed w hl)
      convert ha using 1
      dsimp only
      split <;> rfl
  numbered := by
    rw [closeDiagram_ids, h.numbered, openings_concat]
    exact congrArg _ (List.append_nil _).symm

theorem focusing (h : Agrees moves w) (id : Option Url) :
    Agrees (moves ++ [.focusDiagram id]) (w.focusDiagram id) := by
  have kept := h.keep (m := .focusDiagram id) (fun _ => rfl) (fun _ => rfl) rfl
  obtain ⟨target, known, he⟩ := focusDiagram_eq w id
  rw [he]
  exact ⟨kept.agree.refocus target known, kept.numbered⟩

theorem releasing (h : Agrees moves w) (hr : ¬ w.isRegistered d = true)
    (closed : ∀ e, w'.isClosed e = (w.isClosed e || e == d)) (service : w'.service = w.service)
    (ids : w'.diagrams.map Diagram.id = w.diagrams.map Diagram.id) : Agrees moves w' where
  agree := by
    rw [service]
    refine h.agree.release (fun id hm => hr ?_) closed
    exact List.any_eq_true.mpr ⟨(id, d), hm, beq_self_eq_true d⟩
  numbered := ids.trans h.numbered

theorem move (h : Agrees moves w) (hw : Sound w) (m : Move)
    (held : (w.move m).service.held = true) : Agrees (moves ++ [m]) (w.move m) := by
  have chain := hw.move_chain m
  have before := chain.held_of held
  -- Moves without the service and without an opening change nothing here.
  have other (opens : ∀ id, m.opens id = false) (closes : ∀ id, m.closes id = false)
      (none : openings [m] = []) (opening : Author.opening ∉ w.authors m)
      (service : Author.service ∉ w.authors m) : Agrees (moves ++ [m]) (w.move m) :=
    (h.same (chain.sameRegistry hw opening service)).keep opens closes none
  cases m with
  | step t =>
    obtain ⟨opening, service⟩ := stepAuthors_of_held before t
    exact other (fun _ => rfl) (fun _ => rfl) rfl opening service
  | openDiagram id choice hasNode onService =>
    rw [move_of_held before]
    exact h.opening id choice hasNode onService
  | closeDiagram id =>
    rw [move_of_held before]
    exact h.closing id
  | closeSession d =>
    rw [move_of_held before]
    refine Agrees.keep ?_ (fun _ => rfl) (fun _ => rfl) rfl
    simp only [carryOut]
    split
    · exact h
    · next hr =>
      exact h.releasing hr (closeSession_isClosed w d) (closeSession_service w d)
        (closeSession_ids w d)
  | dropSession d =>
    rw [move_of_held before]
    refine Agrees.keep ?_ (fun _ => rfl) (fun _ => rfl) rfl
    simp only [carryOut]
    split
    · exact h
    · next hr =>
      refine h.releasing hr (releaseSession_isClosed w d) ?_ ((Change.release d).ids_eq (by simp))
      obtain ⟨tasks, he, -⟩ := releaseSession_eq w d
      rw [he]
  | focusDiagram id =>
    rw [move_of_held before]
    exact h.focusing id
  | dropService =>
    rw [move_of_held before] at held
    -- Letting go of the service is not undone by anything, against `held`.
    let dropped := w.updateService fun s => { s with held := false }
    have holds := (retireIfUnused_chain (w := dropped)).held_of held
    cases holds
  | _ => exact other (fun _ => rfl) (fun _ => rfl) rfl (by simp [authors]) (by simp [authors])

theorem new (settings : Settings) (visible : List Url) (symbols : List Symbol) (conduct : Conduct) :
    Agrees [] (.new settings visible symbols conduct) := by
  have none (id : Url) (i : Nat) : ¬ FirstOpening [] id i := by
    rintro ⟨⟨m, hm, -⟩, -, -⟩
    cases hm
  refine ⟨?_, rfl⟩
  constructor
  case nodup => exact List.nodup_nil
  case listed =>
    intro id
    simp [none, Workspace.new, note, record, spawn]
  case ordered => exact List.Pairwise.nil
  case newest => exact fun id d h => absurd h List.not_mem_nil
  case replaced =>
    intro d id h
    cases h
  case unfocused => exact fun _ => rfl
  case focused =>
    intro d h
    cases h
  case last =>
    intro id h
    cases h
  case lastListed =>
    intro id h
    cases h

theorem registryAgrees (h : Agrees moves w) : RegistryAgrees moves w where
  listed := h.agree.listed
  ordered := h.agree.ordered
  nodup := h.agree.nodup
  numbered := h.numbered
  newest id hid := by
    obtain ⟨⟨id, d⟩, hd, rfl⟩ := List.mem_map.mp hid
    obtain ⟨opened, running, newest⟩ := h.agree.newest id d hd
    refine ⟨d, (lookup_eq_some_iff h.agree.nodup).mpr hd, opened, running, fun d' hd' ne => ⟨?_, ?_⟩⟩
    · rcases Nat.lt_trichotomy d' d with lt | eq | gt
      · exact lt
      · exact absurd eq ne
      · exact absurd hd' (newest d' gt)
    · exact h.agree.replaced d' id hd' fun hm => ne (h.agree.entry_unique hm hd)
  removed d id hd hn := h.agree.replaced d id hd fun hm => hn (Agree.mem_keys hm)
  focus := by
    cases ha : w.service.active.value with
    | none => exact h.agree.unfocused ha
    | some d =>
      obtain ⟨id, hf, hm⟩ := h.agree.focused d ha
      have hid : (w.diagrams.map Diagram.id)[d]? = some id := by
        rw [h.numbered, List.getElem?_map, (h.agree.newest id d hm).1]
        rfl
      rw [hf, ← hid, List.getElem?_map]
      rfl
  active d ha := by
    obtain ⟨id, hf, hm⟩ := h.agree.focused d ha
    exact ⟨id, hf, (lookup_eq_some_iff h.agree.nodup).mpr hm⟩
  last := h.agree.last
  lastListed := h.agree.lastListed

end Agrees

theorem run_agrees (settings : Settings) (visible : List Url) (symbols : List Symbol)
    (conduct : Conduct) (moves : List Move)
    (held : ((Workspace.new settings visible symbols conduct).run moves).service.held = true) :
    Agrees moves ((Workspace.new settings visible symbols conduct).run moves) := by
  have sound := Sound.new settings visible symbols conduct
  induction moves using List.reverseRecOn with
  | nil => exact .new settings visible symbols conduct
  | append_singleton moves m ih =>
    rw [run_concat] at held ⊢
    have reached := sound.run moves
    exact (ih ((reached.move_chain m).held_of held)).move reached m held

/-- As long as somebody holds the service, its registry and its focus agree, whatever moves were made
in between. -/
theorem run_registryAgrees (settings : Settings) (visible : List Url) (symbols : List Symbol)
    (conduct : Conduct) (moves : List Move)
    (held : ((Workspace.new settings visible symbols conduct).run moves).service.held = true) :
    RegistryAgrees moves ((Workspace.new settings visible symbols conduct).run moves) :=
  (run_agrees settings visible symbols conduct moves held).registryAgrees

/-- Two diagrams; the first one gets the focus and is opened again, the second one is closed. -/
def reopening (a b : Url) : List Move :=
  [.openDiagram a (.fresh false) false true, .openDiagram b (.fresh false) false true,
    .focusDiagram (some a), .openDiagram a (.fresh true) true true, .closeDiagram b]

/-- The diagram that was opened again is active with its newest session. -/
theorem reopening_registryAgrees :
    let moves := reopening ⟨"file:///b.rs", by decide +kernel⟩ ⟨"file:///c.rs", by decide +kernel⟩
    let w := (Workspace.new .default [] [] (.prompt false false)).run moves
    w.service.active.value = some 2 ∧ RegistryAgrees moves w :=
  ⟨by decide +kernel, run_registryAgrees _ _ _ _ _ (by decide +kernel)⟩

end DiagramLinks
