import DiagramLinks.Proofs.LinkFormat

namespace DiagramLinks

namespace Link

theorem wordJson_isWord (k : UInt32) : (wordJson k).IsWord k := ⟨k.toUInt64, rfl, by simp⟩

theorem positionJson_isPosition (p : Position) : (positionJson p).IsPosition p :=
  .object rfl (wordJson_isWord p.line) rfl (wordJson_isWord p.column)

theorem readPosition_positionJson (p : Position) : readPosition (positionJson p) = .ok p :=
  readPosition_eq_ok_iff.mpr (positionJson_isPosition p)

theorem ofJson_toJson (link : Link) : ofJson link.toJson = .ok link := by
  show readEntries none none none _ = .ok link
  rw [readEntries_eq_ok_iff]
  exact ⟨⟨_, rfl, rfl⟩, ⟨_, rfl, readPosition_positionJson _⟩, ⟨_, rfl, readPosition_positionJson _⟩⟩

/-- The link of a location, also of an empty or a reversed one, points at that location. -/
theorem location_ofLocation (l : Location) : (ofLocation l).location = .ok l :=
  location_eq_ok_iff.mpr ⟨l.uri.parse_text, rfl, rfl⟩

theorem record_positionFields (p : Position) : Json.record (positionFields p) = positionJson p :=
  Json.record_eq (by simp [positionFields])

theorem serialized_eq (link : Link) : link.serialized = link.toJson := by
  unfold serialized
  rw [Json.record_eq (by simp [fields])]
  simp only [fields, record_positionFields, toJson]

end Link

/-- The stored form of a location is read as that location. -/
theorem Location.ofJson_toJson (l : Location) : Location.ofJson (Link.ofLocation l).toJson = .ok l := by
  rw [Location.ofJson, Link.ofJson_toJson]
  exact Link.location_ofLocation l

namespace Link

/-- A link comes back from its value, and both ways to write the value agree. -/
structure ReadsBack (link : Link) : Prop where
  same : ofJson link.toJson = .ok link
  /-- Entry for entry, in the order of the fields. -/
  agrees : link.toJson = link.serialized
  entries : link.serialized = .object [("uri", .string link.uri),
    ("start", .object [("line", wordJson link.start.line), ("col", wordJson link.start.column)]),
    ("end", .object [("line", wordJson link.stop.line), ("col", wordJson link.stop.column)])]

/-- A location comes back from the value of its link and from the link itself. -/
structure Returns (l : Location) : Prop where
  fromValue : Location.ofJson (ofLocation l).toJson = .ok l
  fromLink : (ofLocation l).location = .ok l

theorem toJson_readsBack : (∀ link : Link, link.ReadsBack) ∧ ∀ l : Location, Returns l := by
  constructor
  · intro link
    exact ⟨ofJson_toJson link, (serialized_eq link).symm, serialized_eq link⟩
  · intro l
    exact ⟨Location.ofJson_toJson l, location_ofLocation l⟩

end Link

end DiagramLinks
