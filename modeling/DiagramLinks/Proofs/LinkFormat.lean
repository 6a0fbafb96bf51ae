import Mathlib.Data.List.Perm.Basic
import Mathlib.Logic.Relation
import DiagramLinks.Link

namespace DiagramLinks

/-- An integer from 0 to 2^32 - 1. A number with a fraction or an exponent is none, whatever its value. -/
def Json.IsWord (v : Json) (n : UInt32) : Prop :=
  ∃ k : UInt64, v = .number (.natural k) ∧ k.toNat = n.toNat

/-- A position as an object or as an array. -/
inductive Json.IsPosition : Json → Position → Prop
  | object {entries : List (String × Json)} {line column : Json} {p : Position}
      (hasLine : entries.lookup "line" = some line) (isLine : line.IsWord p.line)
      (hasColumn : entries.lookup "col" = some column) (isColumn : column.IsWord p.column) :
      IsPosition (.object entries) p
  | array {line column : Json} {p : Position} (isLine : line.IsWord p.line)
      (isColumn : column.IsWord p.column) : IsPosition (.array [line, column]) p

/-- A stored link as an object or as an array, and the location that it stands for. -/
inductive Json.IsLink : Json → Location → Prop
  | object {entries : List (String × Json)} {uri : String} {start stop : Json} {l : Location}
      (hasUri : entries.lookup "uri" = some (.string uri)) (parses : Url.parse uri = .ok l.uri)
      (hasStart : entries.lookup "start" = some start) (isStart : start.IsPosition l.range.start)
      (hasStop : entries.lookup "end" = some stop) (isStop : stop.IsPosition l.range.stop) :
      IsLink (.object entries) l
  | array {uri : String} {start stop : Json} {l : Location} (parses : Url.parse uri = .ok l.uri)
      (isStart : start.IsPosition l.range.start) (isStop : stop.IsPosition l.range.stop) :
      IsLink (.array [.string uri, start, stop]) l

/-- Two records without repeated keys that have the same entries under some names, in any order, and any
others besides. -/
structure SameUnder (names : List String) (entries entries' : List (String × Json)) : Prop where
  distinct : (entries.map Prod.fst).Nodup
  distinct' : (entries'.map Prod.fst).Nodup
  perm : (entries.filter (·.1 ∈ names)).Perm (entries'.filter (·.1 ∈ names))

/-- Two positions as records with the same line and the same column. -/
inductive SamePosition : Json → Json → Prop
  | mk {entries entries' : List (String × Json)} (same : SameUnder ["line", "col"] entries entries') :
      SamePosition (.object entries) (.object entries')

/-- A value is rearranged in the record of a link, or in one of the positions within it. -/
inductive Rearranged : Json → Json → Prop
  | link {entries entries' : List (String × Json)}
      (same : SameUnder ["uri", "start", "end"] entries entries') :
      Rearranged (.object entries) (.object entries')
  | entry {before after : List (String × Json)} (key : String) {v v' : Json} (same : SamePosition v v') :
      Rearranged (.object (before ++ (key, v) :: after)) (.object (before ++ (key, v') :: after))
  | item {before after : List Json} {v v' : Json} (same : SamePosition v v') :
      Rearranged (.array (before ++ v :: after)) (.array (before ++ v' :: after))

namespace Link

variable {α : Type} {read : Json → Except Malformed α} {known : Option α} {a b : α} {key k : String}
  {v : Json} {rest : List (String × Json)}

/-- What is known of an entry already, or else what is read of it. -/
def Reads (read : Json → Except Malformed α) (known : Option α) (v : Option Json) (a : α) : Prop :=
  match known with
  | some b => b = a
  | none => ∃ x, v = some x ∧ read x = .ok a

theorem reads_some {v : Option Json} : Reads read (some b) v a ↔ b = a := Iff.rfl

theorem not_reads_none : ¬Reads read none none a := by
  rintro ⟨x, hx, -⟩
  cases hx

theorem reads_here : Reads read none (((k, v) :: rest).lookup k) a ↔ read v = .ok a := by
  simp [Reads]

/-- An entry of another name is passed over, and so is one of a name that is known. -/
theorem reads_later (h : ¬(key = k ∧ known = none)) :
    Reads read known (((key, v) :: rest).lookup k) a ↔ Reads read known (rest.lookup k) a := by
  cases known with
  | some b => rfl
  | none =>
    have other : k ≠ key := fun same => h ⟨same.symm, rfl⟩
    rw [List.lookup_cons, beq_false_of_ne other]

theorem readWord_eq_ok_iff {n : UInt32} : readWord v = .ok n ↔ v.IsWord n := by
  constructor
  · intro h
    unfold readWord at h
    split at h
    · next k =>
      split at h
      · next small =>
        obtain rfl := Except.ok.inj h
        refine ⟨k, rfl, ?_⟩
        rw [UInt64.toNat_toUInt32]
        exact (Nat.mod_eq_of_lt small).symm
      · cases h
    · cases h
    · cases h
  · rintro ⟨k, rfl, hk⟩
    have small : k.toNat < UInt32.size := hk ▸ n.toNat_lt
    have same : k.toUInt32 = n := by
      apply UInt32.toNat_inj.mp
      rw [UInt64.toNat_toUInt32, ← hk]
      exact Nat.mod_eq_of_lt small
    simp only [readWord, small, if_true, same]

/-- The accumulators hold what was read of the entries before. -/
theorem readPositionEntries_eq_ok_iff {entries : List (String × Json)} {line column : Option UInt32}
    {p : Position} : readPositionEntries line column entries = .ok p ↔
      Reads readWord line (entries.lookup "line") p.line ∧
        Reads readWord column (entries.lookup "col") p.column := by
  -- Entry by entry: the first under a name fills its place, what comes later is passed over.
  induction entries generalizing line column with
  | nil =>
    cases line with
    | none => simp [readPositionEntries, not_reads_none]
    | some l =>
      cases column with
      | none => simp [readPositionEntries, not_reads_none]
      | some c =>
        simp only [readPositionEntries, reads_some, Except.ok.injEq]
        constructor
        · rintro rfl
          exact ⟨rfl, rfl⟩
        · rintro ⟨rfl, rfl⟩
          rfl
  | cons entry rest ih =>
    obtain ⟨key, v⟩ := entry
    unfold readPositionEntries
    split
    · next here =>
      obtain ⟨rfl, rfl⟩ := here
      rw [reads_here, reads_later (k := "col") (by simp)]
      split
      · next n hn => rw [ih, reads_some, hn, Except.ok.injEq]
      · next e he => simp [he]
    · next other =>
      rw [reads_later other]
      split
      · next here =>
        obtain ⟨rfl, rfl⟩ := here
        rw [reads_here]
        split
        · next n hn => rw [ih, reads_some, hn, Except.ok.injEq]
        · next e he => simp [he]
      · next other' => rw [ih, reads_later other']

theorem bind_eq_ok_iff {ε β : Type} {x : Except ε α} {f : α → Except ε β} {b : β} :
    x >>= f = .ok b ↔ ∃ a, x = .ok a ∧ f a = .ok b := by
  cases x <;> simp [bind, Except.bind]

theorem throw_ne_ok {m : Malformed} : (throw m : Except Malformed α) ≠ .ok a := nofun

theorem readPositionItems_eq_ok_iff {items : List Json} {p : Position} :
    readPositionItems items = .ok p ↔ ∃ line column, items = [line, column] ∧
      readWord line = .ok p.line ∧ readWord column = .ok p.column := by
  match items with
  | [] => simp [readPositionItems, throw_ne_ok]
  | [line] => simp [readPositionItems, bind_eq_ok_iff, throw_ne_ok]
  | line :: column :: rest =>
    have last (l c : UInt32) : (if rest.isEmpty then (pure ⟨l, c⟩ : Except Malformed Position)
        else throw (.tooManyItems (line :: column :: rest).length)) = .ok p ↔
        rest = [] ∧ (⟨l, c⟩ : Position) = p := by
      cases rest <;> simp [pure, Except.pure, throw_ne_ok]
    simp only [readPositionItems, bind_eq_ok_iff, last]
    constructor
    · rintro ⟨l, hl, c, hc, rfl, rfl⟩
      exact ⟨line, column, rfl, hl, hc⟩
    · rintro ⟨line', column', items, hl, hc⟩
      obtain ⟨rfl, rfl, rfl⟩ : line = line' ∧ column = column' ∧ rest = [] := by simpa using items
      exact ⟨_, hl, _, hc, rfl, rfl⟩

theorem readPosition_eq_ok_iff {p : Position} : readPosition v = .ok p ↔ v.IsPosition p := by
  cases v with
  | object entries =>
    simp only [readPosition, readPositionEntries_eq_ok_iff]
    constructor
    · rintro ⟨⟨line, hasLine, isLine⟩, column, hasColumn, isColumn⟩
      exact .object hasLine (readWord_eq_ok_iff.mp isLine) hasColumn (readWord_eq_ok_iff.mp isColumn)
    · rintro (⟨hasLine, isLine, hasColumn, isColumn⟩ | _)
      exact ⟨⟨_, hasLine, readWord_eq_ok_iff.mpr isLine⟩, _, hasColumn, readWord_eq_ok_iff.mpr isColumn⟩
  | array items =>
    simp only [readPosition, readPositionItems_eq_ok_iff, readWord_eq_ok_iff]
    constructor
    · rintro ⟨line, column, rfl, isLine, isColumn⟩
      exact .array isLine isColumn
    · rintro (_ | ⟨isLine, isColumn⟩)
      exact ⟨_, _, rfl, isLine, isColumn⟩
  | _ =>
    constructor
    · intro h
      cases h
    · intro h
      cases h

theorem readText_eq_ok_iff {s : String} : readText v = .ok s ↔ v = .string s := by
  cases v <;> simp [readText]

/-- The accumulators hold what was read of the entries before. -/
theorem readEntries_eq_ok_iff {entries : List (String × Json)} {uri : Option String}
    {start stop : Option Position} {link : Link} : readEntries uri start stop entries = .ok link ↔
      Reads readText uri (entries.lookup "uri") link.uri ∧
        Reads readPosition start (entries.lookup "start") link.start ∧
        Reads readPosition stop (entries.lookup "end") link.stop := by
  induction entries generalizing uri start stop with
  | nil =>
    rcases uri with _ | u
    · simp [readEntries, not_reads_none]
    rcases start with _ | s
    · simp [readEntries, not_reads_none]
    rcases stop with _ | e
    · simp [readEntries, not_reads_none]
    obtain ⟨u', s', e'⟩ := link
    simp only [readEntries, reads_some, Except.ok.injEq, Link.mk.injEq]
  | cons entry rest ih =>
    obtain ⟨key, v⟩ := entry
    unfold readEntries
    -- Each of the three names in turn, as the reader tries them.
    split
    · next here =>
      obtain ⟨rfl, rfl⟩ := here
      rw [reads_here, reads_later (k := "start") (by simp), reads_later (k := "end") (by simp)]
      split
      · next u hu => rw [ih, reads_some, hu, Except.ok.injEq]
      · next e he => simp [he]
    · next notUri =>
      rw [reads_later notUri]
      split
      · next here =>
        obtain ⟨rfl, rfl⟩ := here
        rw [reads_here, reads_later (k := "end") (by simp)]
        split
        · next p hp => rw [ih, reads_some, hp, Except.ok.injEq]
        · next e he => simp [he]
      · next notStart =>
        rw [reads_later notStart]
        split
        · next here =>
          obtain ⟨rfl, rfl⟩ := here
          rw [reads_here]
          split
          · next p hp => rw [ih, reads_some, hp, Except.ok.injEq]
          · next e he => simp [he]
        · next notStop => rw [ih, reads_later notStop]

theorem readItems_eq_ok_iff {items : List Json} {link : Link} :
    readItems items = .ok link ↔ ∃ start stop, items = [.string link.uri, start, stop] ∧
      readPosition start = .ok link.start ∧ readPosition stop = .ok link.stop := by
  match items with
  | [] => simp [readItems, throw_ne_ok]
  | [uri] => simp [readItems, bind_eq_ok_iff, throw_ne_ok]
  | [uri, start] => simp [readItems, bind_eq_ok_iff, throw_ne_ok]
  | uri :: start :: stop :: rest =>
    have last (u : String) (s e : Position) : (if rest.isEmpty then (pure ⟨u, s, e⟩ : Except Malformed Link)
        else throw (.tooManyItems (uri :: start :: stop :: rest).length)) = .ok link ↔
        rest = [] ∧ (⟨u, s, e⟩ : Link) = link := by
      cases rest <;> simp [pure, Except.pure, throw_ne_ok]
    simp only [readItems, bind_eq_ok_iff, last, readText_eq_ok_iff]
    constructor
    · rintro ⟨u, rfl, s, hs, e, he, rfl, rfl⟩
      exact ⟨start, stop, rfl, hs, he⟩
    · rintro ⟨start', stop', items, hs, he⟩
      obtain ⟨rfl, rfl, rfl, rfl⟩ :
          uri = .string link.uri ∧ start = start' ∧ stop = stop' ∧ rest = [] := by simpa using items
      exact ⟨_, rfl, _, hs, _, he, rfl, rfl⟩

theorem location_eq_ok_iff {link : Link} {l : Location} : link.location = .ok l ↔
    Url.parse link.uri = .ok l.uri ∧ link.start = l.range.start ∧ link.stop = l.range.stop := by
  obtain ⟨uri, start, stop⟩ := l
  unfold location
  split
  · next u hu => simp [hu]
  · next fault hu => simp [hu]

end Link

theorem ofJson_eq_ok_iff {v : Json} {l : Location} : Location.ofJson v = .ok l ↔ v.IsLink l := by
  have read (link : Link) : link.location = .ok l ↔ link = ⟨link.uri, l.range.start, l.range.stop⟩ ∧
      Url.parse link.uri = .ok l.uri := by
    obtain ⟨uri, start, stop⟩ := link
    simp [Link.location_eq_ok_iff, and_comm]
  show Link.ofJson v >>= Link.location = .ok l ↔ _
  rw [Link.bind_eq_ok_iff]
  cases v with
  | object entries =>
    simp only [Link.ofJson, Link.readEntries_eq_ok_iff, read]
    constructor
    · rintro ⟨link, ⟨⟨u, hasUri, isText⟩, ⟨s, hasStart, isStart⟩, e, hasStop, isStop⟩, same, parses⟩
      obtain rfl := Link.readText_eq_ok_iff.mp isText
      rw [same] at isStart isStop
      exact .object hasUri parses hasStart (Link.readPosition_eq_ok_iff.mp isStart) hasStop
        (Link.readPosition_eq_ok_iff.mp isStop)
    · rintro (⟨hasUri, parses, hasStart, isStart, hasStop, isStop⟩ | _)
      exact ⟨⟨_, l.range.start, l.range.stop⟩, ⟨⟨_, hasUri, rfl⟩,
        ⟨_, hasStart, Link.readPosition_eq_ok_iff.mpr isStart⟩, _, hasStop,
        Link.readPosition_eq_ok_iff.mpr isStop⟩, rfl, parses⟩
  | array items =>
    simp only [Link.ofJson, Link.readItems_eq_ok_iff, read]
    constructor
    · rintro ⟨link, ⟨s, e, rfl, isStart, isStop⟩, same, parses⟩
      rw [same] at isStart isStop
      exact .array parses (Link.readPosition_eq_ok_iff.mp isStart) (Link.readPosition_eq_ok_iff.mp isStop)
    · rintro (_ | ⟨parses, isStart, isStop⟩)
      exact ⟨⟨_, l.range.start, l.range.stop⟩, ⟨_, _, rfl, Link.readPosition_eq_ok_iff.mpr isStart,
        Link.readPosition_eq_ok_iff.mpr isStop⟩, rfl, parses⟩
  | _ =>
    constructor
    · rintro ⟨link, h, -⟩
      cases h
    · intro h
      cases h

theorem lookup_filter {entries : List (String × Json)} {names : List String} {name : String}
    (among : name ∈ names) : (entries.filter (·.1 ∈ names)).lookup name = entries.lookup name := by
  induction entries with
  | nil => rfl
  | cons entry rest ih =>
    obtain ⟨key, v⟩ := entry
    by_cases same : name = key
    · subst same
      simp [among]
    · by_cases kept : key ∈ names
      · simp [kept, List.lookup_cons, beq_false_of_ne same, ← ih]
      · simp [kept, List.lookup_cons, beq_false_of_ne same, ← ih]

/-- In a record without repeated keys a look-up does not depend on the order. -/
theorem lookup_perm {entries entries' : List (String × Json)} (perm : entries.Perm entries')
    (distinct : (entries.map Prod.fst).Nodup) (name : String) :
    entries.lookup name = entries'.lookup name := by
  induction perm with
  | nil => rfl
  | cons entry perm ih =>
    obtain ⟨key, v⟩ := entry
    rw [List.lookup_cons, List.lookup_cons, ih (List.nodup_cons.mp distinct).2]
  | swap first second rest =>
    obtain ⟨key, v⟩ := first
    obtain ⟨key', v'⟩ := second
    have ne : key' ≠ key := by
      rintro rfl
      simp at distinct
    by_cases same : name = key
    · subst same
      simp [List.lookup_cons, beq_false_of_ne ne.symm]
    · simp [List.lookup_cons, beq_false_of_ne same]
  | trans perm _ ih ih' => exact (ih distinct).trans (ih' ((perm.map _).nodup_iff.mp distinct))

namespace SameUnder

variable {names : List String} {entries entries' : List (String × Json)} {name : String}

theorem symm (h : SameUnder names entries entries') : SameUnder names entries' entries :=
  ⟨h.distinct', h.distinct, h.perm.symm⟩

theorem lookup_eq (h : SameUnder names entries entries') (among : name ∈ names) :
    entries.lookup name = entries'.lookup name := by
  have distinct : ((entries.filter (·.1 ∈ names)).map Prod.fst).Nodup :=
    h.distinct.sublist (List.filter_sublist.map _)
  rw [← lookup_filter among, lookup_perm h.perm distinct, lookup_filter among]

end SameUnder

theorem SamePosition.symm {v v' : Json} (h : SamePosition v v') : SamePosition v' v := by
  obtain ⟨same⟩ := h
  exact ⟨same.symm⟩

theorem SamePosition.isPosition {v v' : Json} {p : Position} (h : SamePosition v v')
    (isPosition : v.IsPosition p) : v'.IsPosition p := by
  obtain ⟨same⟩ := h
  obtain ⟨hasLine, isLine, hasColumn, isColumn⟩ | _ := isPosition
  rw [same.lookup_eq (by simp)] at hasLine hasColumn
  exact .object hasLine isLine hasColumn isColumn

theorem lookup_changed (before after : List (String × Json)) (key name : String) (v v' : Json) :
    (before ++ (key, v) :: after).lookup name = (before ++ (key, v') :: after).lookup name ∨
      (before ++ (key, v) :: after).lookup name = some v ∧
        (before ++ (key, v') :: after).lookup name = some v' := by
  rw [List.lookup_append, List.lookup_append]
  cases before.lookup name with
  | some x => exact .inl rfl
  | none =>
    by_cases same : name = key
    · subst same
      simp
    · simp [List.lookup_cons, beq_false_of_ne same]

namespace Rearranged

variable {v v' : Json} {l : Location}

theorem symm (h : Rearranged v v') : Rearranged v' v := by
  cases h with
  | link same => exact .link same.symm
  | entry key same => exact .entry key same.symm
  | item same => exact .item same.symm

theorem isLink (h : Rearranged v v') (isLink : v.IsLink l) : v'.IsLink l := by
  cases h with
  | link same =>
    obtain ⟨hasUri, parses, hasStart, isStart, hasStop, isStop⟩ | _ := isLink
    rw [same.lookup_eq (by simp)] at hasUri hasStart hasStop
    exact .object hasUri parses hasStart isStart hasStop isStop
  | @entry before after key v v' same =>
    obtain ⟨hasUri, parses, hasStart, isStart, hasStop, isStop⟩ | _ := isLink
    have position {name : String} {x : Json} {p : Position}
        (has : (before ++ (key, v) :: after).lookup name = some x) (isPosition : x.IsPosition p) :
        ∃ x', (before ++ (key, v') :: after).lookup name = some x' ∧ x'.IsPosition p := by
      rcases lookup_changed before after key name v v' with unchanged | ⟨old, new⟩
      · exact ⟨x, unchanged ▸ has, isPosition⟩
      · obtain rfl := Option.some.inj (old.symm.trans has)
        exact ⟨v', new, same.isPosition isPosition⟩
    obtain ⟨start, hasStart, isStart⟩ := position hasStart isStart
    obtain ⟨stop, hasStop, isStop⟩ := position hasStop isStop
    rcases lookup_changed before after key "uri" v v' with unchanged | ⟨old, -⟩
    · exact .object (unchanged ▸ hasUri) parses hasStart isStart hasStop isStop
    · -- A record is no text.
      obtain rfl := Option.some.inj (old.symm.trans hasUri)
      cases same
  | @item before after v v' same =>
    generalize eq : before ++ v :: after = items at isLink
    obtain _ | ⟨parses, isStart, isStop⟩ := isLink
    match before with
    | [] =>
      obtain ⟨rfl, -⟩ := List.cons.inj eq
      cases same
    | [_] =>
      obtain ⟨rfl, rfl, rfl⟩ : _ = _ ∧ v = _ ∧ after = _ := by simpa using eq
      exact .array parses (same.isPosition isStart) isStop
    | [_, _] =>
      obtain ⟨rfl, rfl, rfl, rfl⟩ : _ = _ ∧ _ = _ ∧ v = _ ∧ after = _ := by simpa using eq
      exact .array parses isStart (same.isPosition isStop)
    | _ :: _ :: _ :: rest => simp at eq

end Rearranged

/-- How values are read as locations. -/
structure ReadsLinks (v : Json) : Prop where
  /-- Just the links are read, and each one as the location that it stands for. -/
  accepts : ∀ l, Location.ofJson v = .ok l ↔ v.IsLink l
  /-- Any other value is malformed. -/
  rejects : (∀ l, ¬v.IsLink l) → ∃ m, Location.ofJson v = .error m
  /-- Neither the order of the entries nor further ones have an influence. -/
  rearranged : ∀ v', Relation.ReflTransGen Rearranged v v' →
    ∀ l, Location.ofJson v = .ok l ↔ Location.ofJson v' = .ok l

theorem ofJson_readsLinks (v : Json) : ReadsLinks v where
  accepts l := ofJson_eq_ok_iff
  rejects none := by
    cases read : Location.ofJson v with
    | ok l => exact absurd (ofJson_eq_ok_iff.mp read) (none l)
    | error m => exact ⟨m, rfl⟩
  rearranged v' steps l := by
    induction steps with
    | refl => rfl
    | tail _ step ih =>
      rw [ih, ofJson_eq_ok_iff, ofJson_eq_ok_iff]
      exact ⟨step.isLink, step.symm.isLink⟩

end DiagramLinks
