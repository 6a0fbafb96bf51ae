import DiagramLinks.CommandLine
import DiagramLinks.Proofs.JsonText
import DiagramLinks.Proofs.LinkRoundTrip

namespace DiagramLinks.CommandLine

variable {a uri : String} {n : UInt32}

/-- A numeral: a plus sign or none, then digits, leading zeros among them, that write a number of 32 bits. -/
inductive IsNumeral : String → UInt32 → Prop
  | mk {sign digits : List Char} {n : UInt32} (signed : sign = [] ∨ sign = ['+']) (nonempty : digits ≠ [])
      (all : ∀ c ∈ digits, c.isDigit = true) (value : Nat.ofDigitChars 10 digits 0 = n.toNat) :
      IsNumeral (String.ofList (sign ++ digits)) n

theorem readDigits_eq_ok_iff {digits : List Char} {sum : Nat} (small : sum < UInt32.size) :
    readDigits sum digits = .ok n ↔
      (∀ c ∈ digits, c.isDigit = true) ∧ Nat.ofDigitChars 10 digits sum = n.toNat := by
  induction digits generalizing sum with
  | nil =>
    simp only [readDigits, Except.ok.injEq, List.not_mem_nil, Nat.ofDigitChars_nil]
    constructor
    · rintro rfl
      simpa using (Nat.mod_eq_of_lt small).symm
    · rintro ⟨-, h⟩
      rw [h]
      simp
  | cons c rest ih =>
    rw [List.forall_mem_cons, Nat.ofDigitChars_cons, readDigits]
    by_cases digit : c.isDigit = true
    · by_cases fits : 10 * sum + (c.toNat - '0'.toNat) < UInt32.size
      · simp only [digit, fits, if_true, ih fits, true_and]
      · have above := Json.le_ofDigitChars rest (10 * sum + (c.toNat - '0'.toNat))
        simp only [digit, fits, if_true, if_false, reduceCtorEq, true_and, false_iff, not_and]
        intro _ value
        exact fits (Nat.lt_of_le_of_lt (value ▸ above) n.toNat_lt_size)
    · simp [digit]

/-- A plus sign without digits is no numeral; before digits it does not count. -/
theorem readNumeral_signed {sign digits : List Char} (signed : sign = [] ∨ sign = ['+'])
    (nonempty : digits ≠ []) (all : ∀ c ∈ digits, c.isDigit = true) :
    readNumeral (sign ++ digits) = readDigits 0 digits := by
  cases digits with
  | nil => exact absurd rfl nonempty
  | cons c rest =>
    rcases signed with rfl | rfl
    · have notSign : c ≠ '+' := by
        rintro rfl
        exact absurd (all '+' (by simp)) (by decide)
      unfold readNumeral
      split <;> simp_all
    · rfl

theorem readNumeral_eq_ok_iff : readNumeral a.toList = .ok n ↔ IsNumeral a n := by
  have digits_iff (digits : List Char) : readDigits 0 digits = .ok n ↔ _ := readDigits_eq_ok_iff (by decide)
  constructor
  · intro read
    unfold readNumeral at read
    split at read
    · cases read
    · cases read
    · next digits alone written =>
      obtain ⟨all, value⟩ := (digits_iff _).mp read
      have nonempty : digits ≠ [] := by
        rintro rfl
        exact alone rfl
      have numeral := IsNumeral.mk (.inr rfl) nonempty all value
      rwa [List.singleton_append, ← written, String.ofList_toList] at numeral
    · next nonempty _ _ =>
      obtain ⟨all, value⟩ := (digits_iff _).mp read
      have numeral := IsNumeral.mk (.inl rfl) nonempty all value
      rwa [List.nil_append, String.ofList_toList] at numeral
  · rintro ⟨signed, nonempty, all, value⟩
    rw [String.toList_ofList, readNumeral_signed signed nonempty all, digits_iff]
    exact ⟨all, value⟩

variable {startLine startColumn endLine endColumn : String} {u : Url} {l : Location}

theorem numeral_eq (what : String) (rest : List String) (h : IsNumeral a n) :
    numeral what (a :: rest) = .ok (n, rest) := by
  simp only [numeral, argument, readNumeral_eq_ok_iff.mpr h]

theorem wordJson_isPlain {depth : Nat} (k : UInt32) : (Link.wordJson k).IsPlain depth := .natural _

theorem positionJson_isPlain {depth : Nat} (p : Position) : (Link.positionJson p).IsPlain (depth + 1) := by
  refine .object (by simp) ?_
  simp [wordJson_isPlain]

theorem toJson_isPlain (link : Link) : link.toJson.IsPlain Json.depthLimit := by
  refine .object (by simp) ?_
  simp [positionJson_isPlain, Json.IsPlain.string]

/-- The numbers of a location in plain decimal, after its document. -/
def shown (l : Location) : String :=
  l.uri.text ++ ":" ++ toString l.range.start.line.toNat ++ ":" ++ toString l.range.start.column.toNat ++
    "-" ++ toString l.range.stop.line.toNat ++ ":" ++ toString l.range.stop.column.toNat

theorem text_eq_shown (l : Location) : l.text = shown l := by
  apply String.toList_injective
  simp [Location.text, Range.text, Position.text, shown]

theorem printed_encode {rest : List String} (parses : Url.parse uri = .ok l.uri)
    (isStartLine : IsNumeral startLine l.range.start.line)
    (isStartColumn : IsNumeral startColumn l.range.start.column)
    (isEndLine : IsNumeral endLine l.range.stop.line)
    (isEndColumn : IsNumeral endColumn l.range.stop.column) :
    printed "--encode" (uri :: startLine :: startColumn :: endLine :: endColumn :: rest) =
      .ok ((Link.ofLocation l).toJson.compact ++ "\n", rest) := by
  simp only [printed, argument, parses, Except.mapError, numeral_eq _ _ isStartLine,
    numeral_eq _ _ isStartColumn, numeral_eq _ _ isEndLine, numeral_eq _ _ isEndColumn, bind, Except.bind]
  rfl

theorem printed_decode {line : String} (written : Json.ofText line = .ok (Link.ofLocation l).toJson) :
    printed "--decode" [line] = .ok (l.text ++ "\n", []) := by
  have decodes : decode line = .ok l := by
    simp only [decode, written, Location.ofJson_toJson]
  simp only [printed, argument, bind, Except.bind, decodes]
  rfl

/-- A line that one command writes for a location, and what the other makes of it. -/
structure RoundTrips (arguments : List String) (l : Location) (line : String) : Prop where
  single : '\n' ∉ line.toList
  written : Json.ofText line = .ok (Link.ofLocation l).toJson
  encodes : run ("--encode" :: arguments) = ⟨0, line ++ "\n", ""⟩
  decodes : run ["--decode", line] = ⟨0, shown l ++ "\n", ""⟩

theorem encode_roundTrips (parses : Url.parse uri = .ok l.uri)
    (isStartLine : IsNumeral startLine l.range.start.line)
    (isStartColumn : IsNumeral startColumn l.range.start.column)
    (isEndLine : IsNumeral endLine l.range.stop.line)
    (isEndColumn : IsNumeral endColumn l.range.stop.column) :
    ∃ line, RoundTrips [uri, startLine, startColumn, endLine, endColumn] l line := by
  have plain := toJson_isPlain (Link.ofLocation l)
  have written := Json.ofText_compact plain
  refine ⟨(Link.ofLocation l).toJson.compact, ?_⟩
  constructor
  case single =>
    intro mem
    rw [Json.compact, String.toList_ofList] at mem
    exact absurd (plain.printable '\n' mem) (by decide)
  case written => exact written
  case encodes => rw [run, printed_encode parses isStartLine isStartColumn isEndLine isEndColumn]
  case decodes => rw [run, printed_decode written, text_eq_shown]

/-- A document whose text holds a quote, a backslash and what looks like a range. -/
theorem escaped_roundTrips : ∃ line,
    RoundTrips ["data:\"\\:1:2-3:4", "+7", "0012", "4294967295", "+000"]
      ⟨⟨"data:\"\\:1:2-3:4", by decide +kernel⟩, ⟨⟨7, 12⟩, ⟨4294967295, 0⟩⟩⟩ line :=
  encode_roundTrips (Url.parse_text ⟨"data:\"\\:1:2-3:4", by decide +kernel⟩)
    (readNumeral_eq_ok_iff.mp (by decide +kernel)) (readNumeral_eq_ok_iff.mp (by decide +kernel))
    (readNumeral_eq_ok_iff.mp (by decide +kernel)) (readNumeral_eq_ok_iff.mp (by decide +kernel))

end DiagramLinks.CommandLine
