import DiagramLinks.Proofs.JsonText
import DiagramLinks.Proofs.LinkRoundTrip

namespace DiagramLinks

variable {v : Json} {l : Location}

/-- A link that is stored as links are written: a record of the three entries in their order and nothing else,
start and end likewise records of a line and a column, and the document a URL in normal form. -/
inductive Json.IsCanonicalLink : Json → Prop
  | mk {uri : String} {u : Url} {startLine startColumn endLine endColumn : Json} (parses : Url.parse uri = .ok u)
      (normal : u.text = uri) :
      IsCanonicalLink (.object [("uri", .string uri),
        ("start", .object [("line", startLine), ("col", startColumn)]),
        ("end", .object [("line", endLine), ("col", endColumn)])])

/-- What becomes of a link that stands for a location when the location is written. -/
structure Canonicalises (v : Json) (l : Location) : Prop where
  kept : Location.ofJson (Link.ofLocation l).toJson = .ok l
  fixed : ∀ l', Location.ofJson (Link.ofLocation l).toJson = .ok l' →
    (Link.ofLocation l').toJson.compact = (Link.ofLocation l).toJson.compact
  unchanged : (Link.ofLocation l).toJson.compact = v.compact ↔ v.IsCanonicalLink

namespace Json

variable {s s' : List Char} {k k' name : String} {entries fields : List (String × Json)} {w : Json}

theorem mem_of_lookup (has : entries.lookup name = some v) : (name, v) ∈ entries := by
  obtain ⟨before, after, split, -⟩ := List.lookup_eq_some_iff.mp has
  rw [split]
  exact List.mem_append_right before List.mem_cons_self

theorem stringText_inj (same : stringText k ++ s = stringText k' ++ s') : k = k' ∧ s = s' := by
  rw [stringText_append, stringText_append] at same
  have read := congrArg characters (List.cons.inj same).2
  rw [characters_flatMap, characters_flatMap] at read
  obtain ⟨names, rest⟩ := Prod.mk.inj (Except.ok.inj read)
  exact ⟨String.toList_inj.mp names, rest⟩

/-- The text of one value begins no text that another one begins, whatever follows. -/
def TextTells (v w : Json) : Prop :=
  ∀ s s', v.text ++ s = w.text ++ s' → v = w ∧ s = s'

theorem TextTells.of_eq (same : v = w) : TextTells v w := by
  subst same
  exact fun s s' texts => ⟨rfl, List.append_cancel_left texts⟩

theorem textTells_string (k k' : String) : TextTells (.string k) (.string k') := by
  intro s s' same
  rw [text, text] at same
  obtain ⟨rfl, rest⟩ := stringText_inj same
  exact ⟨rfl, rest⟩

theorem textTells_array (items : List Json) (fields : List (String × Json)) :
    TextTells (.array items) (.object fields) := by
  intro s s' same
  rw [text, text, List.cons_append, List.cons_append] at same
  exact absurd (List.cons.inj same).1 (by decide)

/-- The entries that follow, where each value under a name is told from the one under the same name. -/
theorem further_inj (tells : ∀ name a b, entries.lookup name = some a → fields.lookup name = some b → TextTells a b)
    (distinct : (fields.map Prod.fst).Nodup)
    (same : further entryText entries ++ '\x7d' :: s = further entryText fields ++ '\x7d' :: s') :
    entries = fields ∧ s = s' := by
  induction entries generalizing fields with
  | nil =>
    cases fields with
    | nil => exact ⟨rfl, (List.cons.inj same).2⟩
    | cons f fields => exact absurd (List.cons.inj same).1 (by decide)
  | cons e entries ih =>
    cases fields with
    | nil => exact absurd (List.cons.inj same).1 (by decide)
    | cons f fields =>
      obtain ⟨k, a⟩ := e
      obtain ⟨k', b⟩ := f
      rw [further_cons, further_cons, List.cons_append, List.cons_append, entryText, entryText] at same
      simp only [List.append_assoc, List.cons_append] at same
      obtain ⟨rfl, values⟩ := stringText_inj (List.cons.inj same).2
      obtain ⟨rfl, rest⟩ := tells k a b (by simp) (by simp) _ _ (List.cons.inj values).2
      obtain ⟨new, distinct⟩ := List.nodup_cons.mp distinct
      -- A name that follows is another one, so both look-ups pass the first entry over.
      have later : ∀ name c d, entries.lookup name = some c → fields.lookup name = some d → TextTells c d := by
        intro name c d hasC hasD
        have mem : name ∈ fields.map Prod.fst := List.mem_map_of_mem (mem_of_lookup hasD)
        have ne : name ≠ k := fun same => new (same ▸ mem)
        exact tells name c d (by rw [List.lookup_cons, beq_false_of_ne ne]; exact hasC)
          (by rw [List.lookup_cons, beq_false_of_ne ne]; exact hasD)
      obtain ⟨rfl, ends⟩ := ih later distinct rest
      exact ⟨rfl, ends⟩

theorem textTells_object (tells : ∀ name a b, entries.lookup name = some a → fields.lookup name = some b → TextTells a b)
    (distinct : (fields.map Prod.fst).Nodup) : TextTells (.object entries) (.object fields) := by
  intro s s' same
  rw [text, text] at same
  simp only [List.cons_append, List.append_assoc, List.nil_append] at same
  have entriesSame := (List.cons.inj same).2
  have further : further entryText entries ++ '\x7d' :: s = further entryText fields ++ '\x7d' :: s' := by
    cases entries with
    | nil =>
      cases fields with
      | nil => exact entriesSame
      | cons f fields =>
        rw [entriesText_cons, entryText, stringText] at entriesSame
        exact absurd (List.cons.inj entriesSame).1 (by decide)
    | cons e entries =>
      cases fields with
      | nil =>
        rw [entriesText_cons, entryText, stringText] at entriesSame
        exact absurd (List.cons.inj entriesSame).1 (by decide)
      | cons f fields =>
        rw [further_cons, further_cons, ← entriesText_cons, ← entriesText_cons, List.cons_append, List.cons_append,
          entriesSame]
  obtain ⟨rfl, rest⟩ := further_inj tells distinct further
  exact ⟨rfl, rest⟩

theorem IsWord.eq_wordJson {n : UInt32} (h : v.IsWord n) : v = Link.wordJson n := by
  obtain ⟨k, rfl, same⟩ := h
  rw [Link.wordJson, UInt64.toNat_inj.mp (same.trans (UInt32.toNat_toUInt64 n).symm)]

theorem IsPosition.textTells {p : Position} (h : v.IsPosition p) : TextTells v (Link.positionJson p) := by
  cases h with
  | array isLine isColumn => exact textTells_array _ _
  | object hasLine isLine hasColumn isColumn =>
    refine textTells_object ?_ (by simp)
    intro name a b hasA hasB
    have mem := mem_of_lookup hasB
    simp only [List.mem_cons, Prod.mk.injEq, List.not_mem_nil, or_false] at mem
    rcases mem with ⟨rfl, rfl⟩ | ⟨rfl, rfl⟩
    · obtain rfl := Option.some.inj (hasLine.symm.trans hasA)
      exact .of_eq isLine.eq_wordJson
    · obtain rfl := Option.some.inj (hasColumn.symm.trans hasA)
      exact .of_eq isColumn.eq_wordJson

theorem IsLink.textTells (h : v.IsLink l) : TextTells v (Link.ofLocation l).toJson := by
  cases h with
  | array parses isStart isStop => exact textTells_array _ _
  | object hasUri parses hasStart isStart hasStop isStop =>
    refine textTells_object ?_ (by simp)
    intro name a b hasA hasB
    have mem := mem_of_lookup hasB
    simp only [List.mem_cons, Prod.mk.injEq, List.not_mem_nil, or_false] at mem
    rcases mem with ⟨rfl, rfl⟩ | ⟨rfl, rfl⟩ | ⟨rfl, rfl⟩
    · obtain rfl := Option.some.inj (hasUri.symm.trans hasA)
      exact textTells_string _ _
    · obtain rfl := Option.some.inj (hasStart.symm.trans hasA)
      exact isStart.textTells
    · obtain rfl := Option.some.inj (hasStop.symm.trans hasA)
      exact isStop.textTells

theorem IsLink.compact_eq_iff (h : v.IsLink l) :
    (Link.ofLocation l).toJson.compact = v.compact ↔ v = (Link.ofLocation l).toJson := by
  constructor
  · intro same
    have texts := String.ofList_inj.mp same
    exact (h.textTells [] [] (by rw [texts])).1
  · rintro rfl
    rfl

theorem isCanonicalLink_toJson (l : Location) : (Link.ofLocation l).toJson.IsCanonicalLink :=
  .mk l.uri.parse_text rfl

theorem IsPosition.eq_positionJson {line column : Json} {p : Position}
    (h : (Json.object [("line", line), ("col", column)]).IsPosition p) :
    Json.object [("line", line), ("col", column)] = Link.positionJson p := by
  obtain ⟨hasLine, isLine, hasColumn, isColumn⟩ | _ := h
  obtain rfl : line = _ := Option.some.inj hasLine
  obtain rfl : column = _ := Option.some.inj hasColumn
  rw [isLine.eq_wordJson, isColumn.eq_wordJson, Link.positionJson]

/-- There is one link in canonical form for each location. -/
theorem IsLink.eq_toJson (h : v.IsLink l) (canonical : v.IsCanonicalLink) : v = (Link.ofLocation l).toJson := by
  obtain ⟨parsed, normal⟩ := canonical
  obtain ⟨hasUri, parses, hasStart, isStart, hasStop, isStop⟩ | _ := h
  obtain rfl := string.inj (Option.some.inj hasUri)
  obtain rfl := Option.some.inj hasStart
  obtain rfl := Option.some.inj hasStop
  obtain rfl := Except.ok.inj (parsed.symm.trans parses)
  rw [isStart.eq_positionJson, isStop.eq_positionJson, Link.toJson, Link.ofLocation, normal]

end Json

/-- Writing a location brings the link that it was read from into canonical form. -/
theorem ofJson_canonicalises (read : Location.ofJson v = .ok l) : Canonicalises v l where
  kept := Location.ofJson_toJson l
  fixed l' again := by
    obtain rfl := Except.ok.inj ((Location.ofJson_toJson l).symm.trans again)
    rfl
  unchanged := by
    have isLink := ofJson_eq_ok_iff.mp read
    rw [isLink.compact_eq_iff]
    constructor
    · rintro rfl
      exact Json.isCanonicalLink_toJson l
    · exact isLink.eq_toJson

/-- A link out of order, with an entry too many, a start without names and a document to be normalised. -/
theorem disordered_canonicalises :
    let v : Json := .object [("end", .object [("col", .number (.natural 4)), ("line", .number (.natural 3))]),
      ("note", .null), ("start", .array [.number (.natural 1), .number (.natural 2)]),
      ("uri", .string "FILE:///x/../b c.rs")]
    let l : Location := ⟨⟨"file:///b%20c.rs", by decide +kernel⟩, ⟨⟨1, 2⟩, ⟨3, 4⟩⟩⟩
    Location.ofJson v = .ok l ∧ Canonicalises v l ∧ (Link.ofLocation l).toJson.compact ≠ v.compact := by
  intro v l
  have read : Location.ofJson v = .ok l := ofJson_eq_ok_iff.mpr
    (.object rfl (by decide +kernel) rfl (.array ⟨1, rfl, rfl⟩ ⟨2, rfl, rfl⟩) rfl
      (.object rfl ⟨3, rfl, rfl⟩ rfl ⟨4, rfl, rfl⟩))
  exact ⟨read, ofJson_canonicalises read, by decide +kernel⟩

end DiagramLinks
