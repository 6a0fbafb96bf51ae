import DiagramLinks.Proofs.CommandRoundTrip

namespace DiagramLinks.CommandLine

variable {arguments rest more taken : List String} {a command out source what : String} {n : UInt32}
  {l : Location}

/-- The commands with their arguments, and what each prints. -/
inductive Prints : List String → String → Prop
  | version : Prints ["--version"] (s!"codelink {version}\n")
  | help : Prints ["--help"] usage
  | tag {label name : String} (found : Symbol.tag? label = some name) : Prints ["--tag", label] (name ++ "\n")
  | noTag {label : String} (absent : Symbol.tag? label = none) : Prints ["--tag", label] "(no tag)\n"
  | decode {source : String} {v : Json} {l : Location} (parses : Json.ofText source = .ok v)
      (isLink : Location.ofJson v = .ok l) : Prints ["--decode", source] (l.text ++ "\n")
  | encode {uri startLine startColumn endLine endColumn : String} {l : Location}
      (parses : Url.parse uri = .ok l.uri) (isStartLine : IsNumeral startLine l.range.start.line)
      (isStartColumn : IsNumeral startColumn l.range.start.column) (isEndLine : IsNumeral endLine l.range.stop.line)
      (isEndColumn : IsNumeral endColumn l.range.stop.column) :
      Prints ["--encode", uri, startLine, startColumn, endLine, endColumn]
        ((Link.ofLocation l).toJson.compact ++ "\n")

/-- How the program takes a list of arguments. -/
structure TakesCommands (arguments : List String) : Prop where
  accepts : (run arguments).status = 0 ↔ arguments = [] ∨ ∃ out, Prints arguments out
  refuses : (run arguments).status ≠ 0 → (run arguments).status = 1
  prints : ∀ out, Prints arguments out → run arguments = ⟨0, out, ""⟩
  surplus : ∀ out, Prints arguments out → ∀ extra more,
    run (arguments ++ extra :: more) = .failed out (.unexpected extra)

theorem argument_eq_ok_iff : argument what arguments = .ok (a, rest) ↔ arguments = a :: rest := by
  cases arguments with
  | nil => simp [argument]
  | cons b arguments => simp [argument]

theorem numeral_eq_ok_iff : numeral what arguments = .ok (n, rest) ↔
    ∃ a, arguments = a :: rest ∧ IsNumeral a n := by
  constructor
  · intro read
    unfold numeral at read
    split at read
    · cases read
    · next a left taken =>
      split at read
      · next k written =>
        obtain ⟨rfl, rfl⟩ := Prod.mk.inj (Except.ok.inj read)
        exact ⟨a, argument_eq_ok_iff.mp taken, readNumeral_eq_ok_iff.mp written⟩
      · cases read
  · rintro ⟨a, rfl, isNumeral⟩
    exact numeral_eq what rest isNumeral

theorem decode_eq_ok_iff : decode source = .ok l ↔
    ∃ v, Json.ofText source = .ok v ∧ Location.ofJson v = .ok l := by
  unfold decode
  split
  · next e parses => simp [parses]
  · next v parses => split <;> simp_all

theorem parse_badUri_eq_ok_iff {uri : String} {u : Url} :
    (Url.parse uri).mapError UsageError.badUri = .ok u ↔ Url.parse uri = .ok u := by
  cases Url.parse uri <;> simp [Except.mapError]

/-- What is printed, and what is left of the arguments, is that of a command at their front. -/
theorem exists_prints (printed : printed command arguments = .ok (out, rest)) :
    ∃ taken, arguments = taken ++ rest ∧ Prints (command :: taken) out := by
  unfold CommandLine.printed at printed
  split at printed
  · simp only [Link.bind_eq_ok_iff, Prod.exists, argument_eq_ok_iff, decode_eq_ok_iff, pure, Except.pure,
      Except.ok.injEq, Prod.mk.injEq] at printed
    obtain ⟨source, _, rfl, l, ⟨v, parses, isLink⟩, rfl, rfl⟩ := printed
    exact ⟨[source], rfl, .decode parses isLink⟩
  · simp only [Link.bind_eq_ok_iff, Prod.exists, argument_eq_ok_iff, parse_badUri_eq_ok_iff, numeral_eq_ok_iff,
      pure, Except.pure, Except.ok.injEq, Prod.mk.injEq] at printed
    obtain ⟨uri, _, rfl, u, parses, startLine, _, ⟨_, rfl, isStartLine⟩, startColumn, _,
      ⟨_, rfl, isStartColumn⟩, endLine, _, ⟨_, rfl, isEndLine⟩, endColumn, _, ⟨_, rfl, isEndColumn⟩, rfl, rfl⟩ :=
        printed
    exact ⟨[_, _, _, _, _], rfl, .encode parses isStartLine isStartColumn isEndLine isEndColumn⟩
  · simp only [Link.bind_eq_ok_iff, Prod.exists, argument_eq_ok_iff, pure, Except.pure, Except.ok.injEq,
      Prod.mk.injEq] at printed
    obtain ⟨label, _, rfl, rfl, rfl⟩ := printed
    refine ⟨[label], rfl, ?_⟩
    cases found : Symbol.tag? label with
    | none => exact .noTag found
    | some name => exact .tag found
  · obtain ⟨rfl, rfl⟩ := Prod.mk.inj (Except.ok.inj printed)
    exact ⟨[], rfl, .version⟩
  · obtain ⟨rfl, rfl⟩ := Prod.mk.inj (Except.ok.inj printed)
    exact ⟨[], rfl, .help⟩
  · cases printed

theorem Prints.printed (prints : Prints (command :: taken) out) (rest : List String) :
    printed command (taken ++ rest) = .ok (out, rest) := by
  generalize line : command :: taken = arguments at prints
  cases prints <;> obtain ⟨rfl, rfl⟩ := List.cons.inj line
  case version => rfl
  case help => rfl
  case tag label name found =>
    show Except.ok ((Symbol.tag? label).getD "(no tag)" ++ "\n", rest) = _
    rw [found, Option.getD_some]
  case noTag label absent =>
    show Except.ok ((Symbol.tag? label).getD "(no tag)" ++ "\n", rest) = _
    rw [absent, Option.getD_none]
    rfl
  case decode source v l parses isLink =>
    have decodes := decode_eq_ok_iff.mpr ⟨v, parses, isLink⟩
    simp only [List.cons_append, List.nil_append, CommandLine.printed, argument, bind, Except.bind, decodes]
    rfl
  case encode uri startLine startColumn endLine endColumn l parses isStartLine isStartColumn isEndLine isEndColumn =>
    exact printed_encode parses isStartLine isStartColumn isEndLine isEndColumn

theorem printed_eq_ok_iff : printed command arguments = .ok (out, rest) ↔
    ∃ taken, arguments = taken ++ rest ∧ Prints (command :: taken) out := by
  constructor
  · exact exists_prints
  · rintro ⟨taken, rfl, prints⟩
    exact prints.printed rest

theorem prints_cons_iff : Prints (command :: arguments) out ↔ printed command arguments = .ok (out, []) := by
  simp [printed_eq_ok_iff]

theorem run_of_prints (prints : Prints arguments out) : run arguments = ⟨0, out, ""⟩ := by
  cases arguments with
  | nil => cases prints
  | cons command arguments => rw [run, prints_cons_iff.mp prints]

theorem run_surplus (prints : Prints arguments out) (extra : String) (more : List String) :
    run (arguments ++ extra :: more) = .failed out (.unexpected extra) := by
  cases arguments with
  | nil => cases prints
  | cons command taken => rw [List.cons_append, run, prints.printed (extra :: more)]

/-- Whether an argument is missing, wrong or one too many, the status is the same. -/
theorem run_otherwise (given : arguments ≠ []) (other : ¬∃ out, Prints arguments out) :
    (run arguments).status = 1 := by
  cases arguments with
  | nil => exact absurd rfl given
  | cons command arguments =>
    rw [run]
    split
    · rfl
    · next out done => exact absurd ⟨out, prints_cons_iff.mpr done⟩ other
    · rfl

/-- The program takes its commands and nothing else. -/
theorem run_takesCommands (arguments : List String) : TakesCommands arguments where
  accepts := by
    constructor
    · intro accepted
      by_contra neither
      obtain ⟨given, other⟩ := not_or.mp neither
      rw [run_otherwise given other] at accepted
      cases accepted
    · rintro (rfl | ⟨out, prints⟩)
      · rfl
      · rw [run_of_prints prints]
  refuses refused := by
    apply run_otherwise
    · rintro rfl
      exact refused rfl
    · rintro ⟨out, prints⟩
      exact refused (by rw [run_of_prints prints])
  prints _ prints := run_of_prints prints
  surplus _ prints extra more := run_surplus prints extra more

end DiagramLinks.CommandLine
