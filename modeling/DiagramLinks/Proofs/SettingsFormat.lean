import DiagramLinks.Proofs.LinkFormat
import DiagramLinks.Settings

namespace DiagramLinks

namespace Json

/-- What an object has under a key; under a repeated one its first value. -/
def Has (v : Json) (key : String) (x : Json) : Prop :=
  ∃ entries, v = .object entries ∧ entries.lookup key = some x

def IsFlag (v : Json) (b : Bool) : Prop :=
  v = .bool b

/-- An integer from 0 to 2^64 - 1. A number with a fraction or an exponent is none, whatever its value. -/
def IsNatural (v : Json) (n : UInt64) : Prop :=
  v = .number (.natural n)

/-- An integer from 1 to 2^32 - 1. -/
def IsColumn (v : Json) (n : UInt32) : Prop :=
  v.IsWord n ∧ 1 ≤ n.toNat

def IsColor (v : Json) (s : String) : Prop :=
  v = .string s ∧ s ≠ ""

end Json

/-- Two records have the same values under a key, wherever they stand. -/
def SameAt (key : String) (entries entries' : List (String × Json)) : Prop :=
  entries.filter (·.1 = key) = entries'.filter (·.1 = key)

namespace Settings

/-- A setting takes the value under its key if the section is an object with a valid one there, and otherwise its
default. -/
def Takes {α : Type} (valid : Json → α → Prop) (fallback : α) (part : Json) (key : String) (a : α) : Prop :=
  (∃ v, part.Has key v ∧ valid v a) ∨ (∀ v b, part.Has key v → ¬valid v b) ∧ a = fallback

/-- The settings that a section gives. -/
structure IsGivenBy (s : Settings) (part : Json) : Prop where
  experimental : Takes Json.IsFlag default.experimental part "experimentalFeatures" s.experimental
  duration : Takes Json.IsNatural default.duration part "highlightDurationMs" s.duration
  column : Takes Json.IsColumn default.column part "revealViewColumn" s.column
  color : Takes Json.IsColor default.color part "highlightColor" s.color

/-- Columns count from one, and a colour has a name. -/
def IsValid (s : Settings) : Prop :=
  1 ≤ s.column.toNat ∧ s.color ≠ ""

/-- Each setting is the same in both if only the entries under its own key are. -/
structure AgreeByKey (s s' : Settings) (entries entries' : List (String × Json)) : Prop where
  experimental : SameAt "experimentalFeatures" entries entries' → s.experimental = s'.experimental
  duration : SameAt "highlightDurationMs" entries entries' → s.duration = s'.duration
  column : SameAt "revealViewColumn" entries entries' → s.column = s'.column
  color : SameAt "highlightColor" entries entries' → s.color = s'.color

/-- The entries of a section that lists all settings. -/
def entries (s : Settings) : List (String × Json) :=
  [("experimentalFeatures", .bool s.experimental), ("highlightDurationMs", .number (.natural s.duration)),
    ("revealViewColumn", Link.wordJson s.column), ("highlightColor", .string s.color)]

/-- What is read of a value as the settings of the editor. -/
structure ReadsSettings (v : Json) : Prop where
  absent : ofJson? v = none ↔ ∀ part, ¬v.Has "codeLink" part
  given : ∀ s, ofJson? v = some s ↔ ∃ part, v.Has "codeLink" part ∧ s.IsGivenBy part
  valid : ∀ s, ofJson? v = some s → s.IsValid
  byKey : ∀ s s' v' entries entries', v.Has "codeLink" (.object entries) → v'.Has "codeLink" (.object entries') →
    ofJson? v = some s → ofJson? v' = some s' → s.AgreeByKey s' entries entries'

/-- Valid settings come back from a section that lists them, in any order. -/
structure ReadsBack (s : Settings) : Prop where
  listed : s.IsValid → ∀ v entries, v.Has "codeLink" (.object entries) → entries.Perm s.entries →
    ofJson? v = some s

section

variable {α : Type} {valid : Json → α → Prop} {read : Json → Option α} {fallback a b : α} {key : String}
  {v x part : Json} {entries entries' : List (String × Json)}

theorem get?_eq_some_iff : v.get? key = some x ↔ v.Has key x := by
  constructor
  · intro found
    cases v with
    | object entries => exact ⟨entries, rfl, found⟩
    | _ => cases found
  · rintro ⟨entries, rfl, found⟩
    exact found

theorem get?_eq_none_iff : v.get? key = none ↔ ∀ x, ¬v.Has key x := by
  simp only [Option.eq_none_iff_forall_ne_some, ne_eq, get?_eq_some_iff]

/-- A key is read with its default in place of all that is not valid. -/
theorem getD_eq_iff (reads : ∀ {v a}, read v = some a ↔ valid v a) :
    ((part.get? key).bind read).getD fallback = a ↔ Takes valid fallback part key a := by
  have found (b : α) : (part.get? key).bind read = some b ↔ ∃ v, part.Has key v ∧ valid v b := by
    simp only [Option.bind_eq_some_iff, get?_eq_some_iff, reads]
  cases value : (part.get? key).bind read with
  | some b =>
    obtain ⟨v, has, isValid⟩ := (found b).mp value
    constructor
    · rintro rfl
      exact .inl ⟨v, has, isValid⟩
    · rintro (takes | ⟨none, -⟩)
      · exact Option.some.inj (value.symm.trans ((found a).mpr takes))
      · exact absurd isValid (none v b has)
  | none =>
    have none (v : Json) (b : α) (has : part.Has key v) (isValid : valid v b) : False := by
      have := (found b).mpr ⟨v, has, isValid⟩
      rw [value] at this
      cases this
    constructor
    · rintro rfl
      exact .inr ⟨none, rfl⟩
    · rintro (⟨v, has, isValid⟩ | ⟨-, rfl⟩)
      · exact (none v a has isValid).elim
      · rfl

theorem lookup_eq_of_sameAt (same : SameAt key entries entries') : entries.lookup key = entries'.lookup key := by
  have kept (l : List (String × Json)) : (l.filter (·.1 = key)).lookup key = l.lookup key := by
    simpa using @lookup_filter l [key] key (List.mem_singleton_self key)
  rw [← kept entries, same, kept]

/-- A setting depends on its own key alone. -/
theorem Takes.eq_of_sameAt (reads : ∀ {v a}, read v = some a ↔ valid v a) (same : SameAt key entries entries')
    (takes : Takes valid fallback (.object entries) key a) (takes' : Takes valid fallback (.object entries') key b) :
    a = b := by
  have has (v : Json) : (Json.object entries).Has key v ↔ (Json.object entries').Has key v := by
    simp only [← get?_eq_some_iff, Json.get?, lookup_eq_of_sameAt same]
  rcases takes with ⟨v, hasV, isValid⟩ | ⟨none, rfl⟩
  · rcases takes' with ⟨v', hasV', isValid'⟩ | ⟨none', rfl⟩
    · rw [← has, ← get?_eq_some_iff] at hasV'
      obtain rfl := Option.some.inj ((get?_eq_some_iff.mpr hasV).symm.trans hasV')
      exact Option.some.inj ((reads.mpr isValid).symm.trans (reads.mpr isValid'))
    · exact absurd isValid (none' v a ((has v).mp hasV))
  · rcases takes' with ⟨v', hasV', isValid'⟩ | ⟨none', rfl⟩
    · exact absurd isValid' (none v' b ((has v').mpr hasV'))
    · rfl

end

variable {s s' : Settings} {v part : Json}

theorem bool?_eq_some_iff {b : Bool} : v.bool? = some b ↔ v.IsFlag b := by
  cases v <;> simp [Json.bool?, Json.IsFlag]

theorem natural?_eq_some_iff {n : UInt64} : v.natural? = some n ↔ v.IsNatural n := by
  unfold Json.natural? Json.IsNatural
  split <;> simp_all

theorem string?_eq_some_iff {t : String} : v.string? = some t ↔ v = .string t := by
  cases v <;> simp [Json.string?]

def word? (v : Json) : Option UInt32 :=
  v.natural?.bind fun k => if k.toNat < UInt32.size then some k.toUInt32 else none

theorem word?_eq_some_iff {n : UInt32} : word? v = some n ↔ v.IsWord n := by
  rw [← Link.readWord_eq_ok_iff]
  cases v with
  | number k =>
    cases k with
    | natural k =>
      simp only [word?, Json.natural?, Option.bind_some, Link.readWord]
      split <;> simp
    | _ => simp [word?, Json.natural?, Link.readWord]
  | _ => simp [word?, Json.natural?, Link.readWord]

theorem isColumn_iff {n : UInt32} : (word? v).filter (0 < ·) = some n ↔ v.IsColumn n := by
  rw [Option.filter_eq_some_iff, word?_eq_some_iff, Json.IsColumn, decide_eq_true_iff, UInt32.lt_iff_toNat_lt]
  rfl

theorem isColor_iff {t : String} : v.string?.filter (!·.isEmpty) = some t ↔ v.IsColor t := by
  rw [Option.filter_eq_some_iff, string?_eq_some_iff, Json.IsColor]
  simp

theorem column?_filter (part : Json) :
    (column? part).filter (0 < ·) = (part.get? "revealViewColumn").bind fun v => (word? v).filter (0 < ·) := by
  rw [column?, Option.bind_assoc]
  cases part.get? "revealViewColumn" <;> rfl

theorem ofSection_eq_iff : ofSection part = s ↔ s.IsGivenBy part := by
  have fields (t : Settings) : t = s ↔ t.experimental = s.experimental ∧ t.duration = s.duration ∧
      t.column = s.column ∧ t.color = s.color := by
    cases t
    cases s
    exact iff_of_eq (mk.injEq ..)
  have color : ((part.get? "highlightColor").bind Json.string?).filter (!·.isEmpty) =
      (part.get? "highlightColor").bind fun v => v.string?.filter (!·.isEmpty) := by
    cases part.get? "highlightColor" <;> rfl
  rw [fields]
  simp only [ofSection, column?_filter, color, getD_eq_iff bool?_eq_some_iff, getD_eq_iff natural?_eq_some_iff,
    getD_eq_iff isColumn_iff, getD_eq_iff isColor_iff]
  exact ⟨fun ⟨experimental, duration, column, color⟩ => ⟨experimental, duration, column, color⟩,
    fun given => ⟨given.experimental, given.duration, given.column, given.color⟩⟩

theorem ofJson?_eq_some_iff : ofJson? v = some s ↔ ∃ part, v.Has "codeLink" part ∧ s.IsGivenBy part := by
  simp only [ofJson?, Option.map_eq_some_iff, get?_eq_some_iff, ofSection_eq_iff]

theorem IsGivenBy.isValid (given : s.IsGivenBy part) : s.IsValid := by
  constructor
  · rcases given.column with ⟨v, -, -, positive⟩ | ⟨-, fallback⟩
    · exact positive
    · rw [fallback]
      decide
  · rcases given.color with ⟨v, -, -, named⟩ | ⟨-, fallback⟩
    · exact named
    · rw [fallback]
      decide

theorem IsGivenBy.agreeByKey {entries entries' : List (String × Json)} (given : s.IsGivenBy (.object entries))
    (given' : s'.IsGivenBy (.object entries')) : s.AgreeByKey s' entries entries' where
  experimental same := given.experimental.eq_of_sameAt bool?_eq_some_iff same given'.experimental
  duration same := given.duration.eq_of_sameAt natural?_eq_some_iff same given'.duration
  column same := given.column.eq_of_sameAt isColumn_iff same given'.column
  color same := given.color.eq_of_sameAt isColor_iff same given'.color

/-- A section that lists settings gives them, in any order. -/
theorem isGivenBy_entries {entries : List (String × Json)} (valid : s.IsValid) (perm : entries.Perm s.entries) :
    s.IsGivenBy (.object entries) := by
  have distinct : (entries.map Prod.fst).Nodup := ((perm.map _).nodup_iff).mpr (by simp [Settings.entries])
  have has {key : String} {x : Json} (listed : s.entries.lookup key = some x) :
      (Json.object entries).Has key x := ⟨entries, rfl, (lookup_perm perm distinct key).trans listed⟩
  exact ⟨.inl ⟨_, has rfl, rfl⟩, .inl ⟨_, has rfl, rfl⟩,
    .inl ⟨_, has rfl, ⟨s.column.toUInt64, rfl, by simp⟩, valid.1⟩, .inl ⟨_, has rfl, rfl, valid.2⟩⟩

theorem ofJson?_readsSettings : (∀ v, ReadsSettings v) ∧ ∀ s : Settings, s.ReadsBack := by
  constructor
  · intro v
    constructor
    case absent => rw [ofJson?, Option.map_eq_none_iff, get?_eq_none_iff]
    case given => exact fun s => ofJson?_eq_some_iff
    case valid =>
      intro s read
      obtain ⟨part, -, given⟩ := ofJson?_eq_some_iff.mp read
      exact given.isValid
    case byKey =>
      intro s s' v' entries entries' has has' read read'
      have given {u : Json} {entries : List (String × Json)} {s : Settings} (has : u.Has "codeLink" (.object entries))
          (read : ofJson? u = some s) : s.IsGivenBy (.object entries) := by
        obtain ⟨part, hasPart, given⟩ := ofJson?_eq_some_iff.mp read
        rw [← get?_eq_some_iff] at has hasPart
        obtain rfl := Option.some.inj (hasPart.symm.trans has)
        exact given
      exact (given has read).agreeByKey (given has' read')
  · intro s
    exact ⟨fun valid v entries has perm => ofJson?_eq_some_iff.mpr ⟨_, has, isGivenBy_entries valid perm⟩⟩

end Settings

end DiagramLinks
