import DiagramLinks.Json.Printer
import DiagramLinks.Json.Reader

namespace DiagramLinks.Json

/-- A value without doubles, with distinct names in each object, that nests at most `depth` deep. -/
inductive IsPlain : Nat → Json → Prop
  | null {depth : Nat} : IsPlain depth .null
  | bool {depth : Nat} (b : Bool) : IsPlain depth (.bool b)
  | natural {depth : Nat} (n : UInt64) : IsPlain depth (.number (.natural n))
  | negative {depth : Nat} {n : Int64} (below : n.toInt < 0) : IsPlain depth (.number (.negative n))
  | string {depth : Nat} (s : String) : IsPlain depth (.string s)
  | array {depth : Nat} {items : List Json} (plain : ∀ v ∈ items, IsPlain depth v) :
      IsPlain (depth + 1) (.array items)
  | object {depth : Nat} {entries : List (String × Json)} (distinct : (entries.map Prod.fst).Nodup)
      (plain : ∀ e ∈ entries, IsPlain depth e.2) : IsPlain (depth + 1) (.object entries)

/-- A text that does not go on with a number that stands before it. -/
def EndsNumber (s : List Char) : Prop :=
  ∀ c ∈ s.head?, c.isDigit = false ∧ c ≠ '.' ∧ isExponentMark c = false

variable {c : Char} {s rest : List Char} {v : Json} {depth : Nat}

theorem endsNumber_nil : EndsNumber [] := nofun

theorem endsNumber_cons (h : c.isDigit = false ∧ c ≠ '.' ∧ isExponentMark c = false) :
    EndsNumber (c :: s) := by
  intro d hd
  obtain rfl := Option.some.inj hd
  exact h

theorem endsNumber_bracket (s : List Char) : EndsNumber (']' :: s) := endsNumber_cons (by decide)

theorem endsNumber_brace (s : List Char) : EndsNumber ('\x7d' :: s) := endsNumber_cons (by decide)

theorem skipBlanks_cons (h : c ∉ [' ', '\n', '\t', '\r']) : skipBlanks (c :: s) = c :: s := by
  simp only [List.mem_cons, List.not_mem_nil, or_false, not_or] at h
  simp [skipBlanks, h]

theorem hexValue?_hexDigit (n : Nat) : hexValue? (hexDigit n) = some (n % 16) := by
  have each : ∀ k < 16, hexValue? (Nat.digitChar k) = some k := by decide
  exact each _ (Nat.mod_lt n (by decide))

theorem characters_quote (s : List Char) : characters ('"' :: s) = .ok ([], s) := by
  unfold characters
  rfl

theorem characters_plainEscape {e : Char} (h : plainEscape? e = some c) :
    characters ('\\' :: e :: s) = (characters s).map (prepend c) := by
  rw [characters.eq_def]
  simp only [show ¬ '\\' = '"' by decide, if_false, if_true, h]

theorem characters_unit {a b d e : Char} {n : Nat} (h : unit? a b d e = some n) (low : n < 0xD800) :
    characters ('\\' :: 'u' :: a :: b :: d :: e :: s) = (characters s).map (prepend (Char.ofNat n)) := by
  rw [characters.eq_def]
  simp only [show ¬ '\\' = '"' by decide, show plainEscape? 'u' = none by decide, if_false, if_true, h, low,
    true_or]

theorem characters_other (quote : c ≠ '"') (backslash : c ≠ '\\') (control : ¬c.toNat < 0x20) :
    characters (c :: s) = (characters s).map (prepend c) := by
  rw [characters.eq_def]
  simp only [quote, backslash, control, if_false]

theorem unit?_control (small : c.toNat < 0x20) :
    unit? '0' '0' (hexDigit (c.toNat / 16)) (hexDigit c.toNat) = some c.toNat := by
  have zero : hexValue? '0' = some 0 := rfl
  simp only [unit?, zero, hexValue?_hexDigit, Option.bind_eq_bind, Option.bind_some, Option.pure_def,
    Option.some.injEq]
  omega

/-- A character is written with a letter that stands for it, with its number, or as it is. -/
theorem escape_cases (c : Char) : (∃ e, plainEscape? e = some c ∧ escape c = ['\\', e]) ∨
    (c.toNat < 0x20 ∧
      escape c = ['\\', 'u', '0', '0', hexDigit (c.toNat / 16), hexDigit c.toNat]) ∨
    (c ≠ '"' ∧ c ≠ '\\' ∧ ¬c.toNat < 0x20 ∧ escape c = [c]) := by
  unfold escape
  split
  · next h => exact .inl ⟨'"', by rw [h]; rfl, rfl⟩
  split
  · next h => exact .inl ⟨'\\', by rw [h]; rfl, rfl⟩
  split
  · next h => exact .inl ⟨'n', by rw [h]; rfl, rfl⟩
  split
  · next h => exact .inl ⟨'r', by rw [h]; rfl, rfl⟩
  split
  · next h => exact .inl ⟨'t', by rw [h]; rfl, rfl⟩
  split
  · next h => exact .inl ⟨'b', by rw [h]; rfl, rfl⟩
  split
  · next h => exact .inl ⟨'f', by rw [h]; rfl, rfl⟩
  split
  · next control => exact .inr (.inl ⟨control, rfl⟩)
  · next quote backslash _ _ _ _ _ control => exact .inr (.inr ⟨quote, backslash, control, rfl⟩)

/-- What a character is written as stands for that character. -/
theorem characters_escape (c : Char) (s : List Char) :
    characters (escape c ++ s) = (characters s).map (prepend c) := by
  rcases escape_cases c with ⟨e, he, written⟩ | ⟨control, written⟩ | ⟨quote, backslash, control, written⟩
  · rw [written]
    exact characters_plainEscape he
  · rw [written]
    have low : c.toNat < 0xD800 := by omega
    have read := characters_unit (s := s) (unit?_control control) low
    rwa [Char.ofNat_toNat] at read
  · rw [written]
    exact characters_other quote backslash control

theorem characters_flatMap (cs rest : List Char) :
    characters (cs.flatMap escape ++ '"' :: rest) = .ok (cs, rest) := by
  induction cs with
  | nil => exact characters_quote rest
  | cons c cs ih =>
    rw [List.flatMap_cons, List.append_assoc, characters_escape, ih]
    rfl

theorem stringText_append (k : String) (rest : List Char) :
    stringText k ++ rest = '"' :: (k.toList.flatMap escape ++ '"' :: rest) := by
  simp [stringText]

theorem le_ofDigitChars (digits : List Char) (n : Nat) : n ≤ Nat.ofDigitChars 10 digits n := by
  rw [Nat.ofDigitChars_eq_ofDigitChars_zero]
  exact Nat.le_trans (Nat.le_mul_of_pos_left _ (Nat.pow_pos (by decide))) (Nat.le_add_right _ _)

theorem foldl_absorbWhole {digits : List Char} {n : Nat} (small : Nat.ofDigitChars 10 digits n < UInt64.size) :
    digits.foldl absorbWhole (n, 0) = (Nat.ofDigitChars 10 digits n, 0) := by
  induction digits generalizing n with
  | nil => rfl
  | cons c rest ih =>
    rw [Nat.ofDigitChars_cons, Nat.mul_comm] at small
    have fits : n * 10 + digitValue c < UInt64.size := Nat.lt_of_le_of_lt (le_ofDigitChars _ _) small
    rw [List.foldl_cons, Nat.ofDigitChars_cons, Nat.mul_comm]
    have next : absorbWhole (n, 0) c = (n * 10 + digitValue c, 0) := by
      simp [absorbWhole, fits]
    rw [next]
    exact ih small

/-- Only zero is written with a leading zero. -/
theorem toDigits_ne_zero_cons {n : Nat} (pos : 0 < n) (digits : List Char) :
    Nat.toDigits 10 n ≠ '0' :: digits := by
  induction n using Nat.base_induction 10 (by decide) generalizing digits with
  | single k small =>
    intro h
    rw [Nat.toDigits_of_lt_base small] at h
    exact Nat.ne_of_gt pos (Nat.digitChar_eq_zero.mp (List.cons.inj h).1)
  | digit m k small high ih =>
    intro h
    rw [← Nat.toDigits_append_toDigits (by decide) high small] at h
    cases leading : Nat.toDigits 10 m with
    | nil => exact Nat.toDigits_ne_nil leading
    | cons c rest =>
      rw [leading, List.cons_append] at h
      exact ih high rest ((List.cons.inj h).1 ▸ leading)

theorem isDigit_toDigits {n : Nat} (mem : c ∈ Nat.toDigits 10 n) : c.isDigit = true :=
  Nat.isDigit_of_mem_toDigits (by decide) (by decide) mem

theorem takeWhile_digits {digits : List Char} (all : ∀ c ∈ digits, c.isDigit = true) (ends : EndsNumber s) :
    (digits ++ s).takeWhile Char.isDigit = digits ∧ (digits ++ s).dropWhile Char.isDigit = s := by
  rw [List.takeWhile_append_of_pos all, List.dropWhile_append_of_pos all]
  cases s with
  | nil => simp
  | cons c rest => simp [(ends c rfl).1]

theorem afterWhole_ends (ends : EndsNumber s) (negative : Bool) (n : Nat) :
    afterWhole negative n 0 s = .ok (whole negative n, s) := by
  cases s with
  | nil => rfl
  | cons c rest =>
    obtain ⟨-, point, mark⟩ := ends c rfl
    unfold afterWhole
    split
    · next h => exact absurd (List.cons.inj h).1 point
    · next h =>
      obtain ⟨rfl, rfl⟩ := List.cons.inj h
      simp [mark]
    · next h => cases h

/-- A numeral is read as its number. -/
theorem numeral_toDigits (negative : Bool) {n : Nat} (small : n < UInt64.size) (ends : EndsNumber s) :
    numeral negative (Nat.toDigits 10 n ++ s) = .ok (whole negative n, s) := by
  rcases Nat.eq_zero_or_pos n with rfl | pos
  · rw [Nat.toDigits_zero]
    cases s with
    | nil => rfl
    | cons c rest =>
      show (if c.isDigit then _ else afterWhole negative 0 0 (c :: rest)) = _
      rw [if_neg (by simp [(ends c rfl).1]), afterWhole_ends ends]
  · obtain ⟨taken, left⟩ := takeWhile_digits (fun c => isDigit_toDigits (c := c) (n := n)) ends
    have value : (Nat.toDigits 10 n).foldl absorbWhole (0, 0) = (n, 0) := by
      rw [foldl_absorbWhole] <;> rw [Nat.ofDigitChars_ten_toDigits]
      exact small
    cases written : Nat.toDigits 10 n with
    | nil => exact absurd written Nat.toDigits_ne_nil
    | cons c rest =>
      have notZero : c ≠ '0' := by
        rintro rfl
        exact toDigits_ne_zero_cons pos rest written
      have digit : c.isDigit = true := isDigit_toDigits (n := n) (by simp [written])
      rw [written] at taken left value
      rw [List.cons_append] at taken left ⊢
      simp only [numeral, notZero, digit, if_false, if_true, taken, left, value]
      exact afterWhole_ends ends negative n

theorem text_natural (n : UInt64) : text (.number (.natural n)) = Nat.toDigits 10 n.toNat := by
  rw [text, Number.text]

theorem text_negative {n : Int64} (below : n.toInt < 0) :
    text (.number (.negative n)) = '-' :: Nat.toDigits 10 n.toInt.natAbs := by
  have size : (-n.toInt).toNat = n.toInt.natAbs := by omega
  rw [text, Number.text, Int.toString_eq_repr, Int.repr_eq_if, if_neg (Int.not_le.mpr below), size,
    String.toList_append, Nat.toList_repr]
  rfl

theorem whole_negative {n : Int64} (below : n.toInt < 0) :
    whole true n.toInt.natAbs = .negative n := by
  have least := n.minValue_le_toInt
  have bound : ¬(n.toInt.natAbs = 0 ∨ 0x8000000000000000 < n.toInt.natAbs) := by
    simp at least
    omega
  have same : -(n.toInt.natAbs : Int) = n.toInt := by omega
  rw [whole, if_neg (by decide), if_neg bound, same, Int64.ofInt_toInt]

/-- What is known of the first character of a value. -/
structure Opens (c : Char) : Prop where
  visible : c ∉ [' ', '\n', '\t', '\r']
  ne : c ≠ ']'

theorem opens_digit (digit : c.isDigit = true) : Opens c := by
  constructor
  · intro mem
    simp only [List.mem_cons, List.not_mem_nil, or_false] at mem
    rcases mem with rfl | rfl | rfl | rfl <;> cases digit
  · rintro rfl
    cases digit

theorem text_opens (plain : v.IsPlain depth) : ∃ c rest, v.text = c :: rest ∧ Opens c := by
  cases plain with
  | null => exact ⟨'n', _, rfl, by decide, by decide⟩
  | bool b => cases b <;> exact ⟨_, _, rfl, by decide, by decide⟩
  | natural n =>
    rw [text_natural]
    cases written : Nat.toDigits 10 n.toNat with
    | nil => exact absurd written Nat.toDigits_ne_nil
    | cons c rest => exact ⟨c, rest, rfl, opens_digit (isDigit_toDigits (n := n.toNat) (by simp [written]))⟩
  | negative below => exact ⟨'-', _, text_negative below, by decide, by decide⟩
  | string s => exact ⟨'"', _, by rw [text, stringText], by decide, by decide⟩
  | array => exact ⟨'[', _, by rw [text], by decide, by decide⟩
  | object => exact ⟨'\x7b', _, by rw [text], by decide, by decide⟩

section

variable {α : Type} {write : α → List Char}

/-- The texts of the elements after the first, each after its comma. -/
def further (write : α → List Char) (xs : List α) : List Char :=
  xs.flatMap fun x => ',' :: write x

theorem further_cons (x : α) (xs : List α) : further write (x :: xs) = ',' :: (write x ++ further write xs) :=
  rfl

theorem length_further (write : α → List Char) (xs : List α) : xs.length ≤ (further write xs).length := by
  induction xs with
  | nil => exact Nat.le_refl 0
  | cons x xs ih =>
    rw [further_cons, List.length_cons, List.length_cons, List.length_append]
    omega

theorem endsNumber_further (write : α → List Char) (xs : List α) (close : EndsNumber s) :
    EndsNumber (further write xs ++ s) := by
  cases xs with
  | nil => exact close
  | cons x xs => exact endsNumber_cons (by decide)

end

theorem itemsText_cons (v : Json) (vs : List Json) : itemsText (v :: vs) = v.text ++ further text vs := by
  induction vs generalizing v with
  | nil => simp [itemsText, further]
  | cons w vs ih => rw [itemsText, ih, further_cons]

def entryText (e : String × Json) : List Char :=
  stringText e.1 ++ ':' :: e.2.text

theorem entriesText_cons (e : String × Json) (es : List (String × Json)) :
    entriesText (e :: es) = entryText e ++ further entryText es := by
  induction es generalizing e with
  | nil => simp [entriesText, entryText, further]
  | cons f es ih => simp only [entriesText, ih, further_cons, entryText, List.append_assoc, List.cons_append]

theorem length_itemsText (vs : List Json) : vs.length ≤ (itemsText vs).length + 1 := by
  cases vs with
  | nil => exact Nat.zero_le _
  | cons v vs =>
    have := length_further text vs
    rw [itemsText_cons, List.length_append, List.length_cons]
    omega

theorem length_entriesText (es : List (String × Json)) : es.length ≤ (entriesText es).length + 1 := by
  cases es with
  | nil => exact Nat.zero_le _
  | cons e es =>
    have := length_further entryText es
    rw [entriesText_cons, List.length_append, List.length_cons]
    omega

section

variable {item : List Char → Reading Json} {fuel : Nat} {vs : List Json} {es : List (String × Json)}
  {e : String × Json}

/-- A reader gives back the value that a text begins with. -/
def Returns (item : List Char → Reading Json) (v : Json) : Prop :=
  ∀ rest, EndsNumber rest → item (v.text ++ rest) = .ok (v, rest)

theorem items_first (opens : Opens c) (read : item (c :: s) = .ok (v, rest)) :
    items item (fuel + 1) true (c :: s) = (items item fuel false rest).map fun (vs, s) => (v :: vs, s) := by
  simp only [items, skipBlanks_cons opens.visible, if_neg opens.ne, if_true, read]

theorem items_comma (opens : Opens c) (read : item (c :: s) = .ok (v, rest)) :
    items item (fuel + 1) false (',' :: c :: s) =
      (items item fuel false rest).map fun (vs, s) => (v :: vs, s) := by
  have comma : skipBlanks (',' :: c :: s) = ',' :: c :: s := skipBlanks_cons (by decide)
  simp only [items, comma, show ¬ ',' = ']' by decide, if_false, if_true, skipBlanks_cons opens.visible,
    opens.ne, read, Bool.false_eq_true]

theorem items_further (plain : ∀ v ∈ vs, v.IsPlain depth) (returns : ∀ v ∈ vs, Returns item v)
    (enough : vs.length < fuel) (rest : List Char) :
    items item fuel false (further text vs ++ ']' :: rest) = .ok (vs, rest) := by
  induction vs generalizing fuel with
  | nil =>
    cases fuel with
    | zero => cases enough
    | succ fuel => rfl
  | cons v vs ih =>
    cases fuel with
    | zero => cases enough
    | succ fuel =>
      rw [List.forall_mem_cons] at plain returns
      obtain ⟨c, s, written, opens⟩ := text_opens plain.1
      have read := returns.1 _ (endsNumber_further text vs (endsNumber_bracket rest))
      rw [written, List.cons_append] at read
      rw [further_cons, List.cons_append, List.append_assoc, written, List.cons_append,
        items_comma opens read, ih plain.2 returns.2 (Nat.lt_of_succ_lt_succ enough)]
      rfl

theorem items_text (plain : ∀ v ∈ vs, v.IsPlain depth) (returns : ∀ v ∈ vs, Returns item v)
    (enough : vs.length < fuel) (rest : List Char) :
    items item fuel true (itemsText vs ++ ']' :: rest) = .ok (vs, rest) := by
  cases fuel with
  | zero => cases enough
  | succ fuel =>
    cases vs with
    | nil => rfl
    | cons v vs =>
      rw [List.forall_mem_cons] at plain returns
      obtain ⟨c, s, written, opens⟩ := text_opens plain.1
      have read := returns.1 _ (endsNumber_further text vs (endsNumber_bracket rest))
      rw [written, List.cons_append] at read
      rw [itemsText_cons, List.append_assoc, written, List.cons_append, items_first opens read,
        items_further plain.2 returns.2 (Nat.lt_of_succ_lt_succ enough)]
      rfl

theorem entry_text (returns : Returns item e.2) (ends : EndsNumber rest) :
    entry item (e.1.toList.flatMap escape ++ '"' :: ':' :: (e.2.text ++ rest)) = .ok (e, rest) := by
  have colon : skipBlanks (':' :: (e.2.text ++ rest)) = ':' :: (e.2.text ++ rest) := skipBlanks_cons (by decide)
  simp only [entry, characters_flatMap, colon, if_true, returns rest ends, Except.map, String.ofList_toList]

theorem entryText_append (e : String × Json) (rest : List Char) : entryText e ++ rest =
    '"' :: (e.1.toList.flatMap escape ++ '"' :: ':' :: (e.2.text ++ rest)) := by
  simp [entryText, stringText]

theorem entries_first (read : entry item s = .ok (e, rest)) :
    entries item (fuel + 1) true ('"' :: s) =
      (entries item fuel false rest).map fun (es, s) => (e :: es, s) := by
  have quote : skipBlanks ('"' :: s) = '"' :: s := skipBlanks_cons (by decide)
  simp only [entries, quote, show ¬ '"' = '\x7d' by decide, if_false, if_true, read]

theorem entries_comma (read : entry item s = .ok (e, rest)) :
    entries item (fuel + 1) false (',' :: '"' :: s) =
      (entries item fuel false rest).map fun (es, s) => (e :: es, s) := by
  have comma : skipBlanks (',' :: '"' :: s) = ',' :: '"' :: s := skipBlanks_cons (by decide)
  have quote : skipBlanks ('"' :: s) = '"' :: s := skipBlanks_cons (by decide)
  simp only [entries, comma, quote, show ¬ ',' = '\x7d' by decide, if_false, if_true, read, Bool.false_eq_true]

theorem entries_further (returns : ∀ e ∈ es, Returns item e.2) (enough : es.length < fuel)
    (rest : List Char) :
    entries item fuel false (further entryText es ++ '\x7d' :: rest) = .ok (es, rest) := by
  induction es generalizing fuel with
  | nil =>
    cases fuel with
    | zero => cases enough
    | succ fuel => rfl
  | cons e es ih =>
    cases fuel with
    | zero => cases enough
    | succ fuel =>
      rw [List.forall_mem_cons] at returns
      have read := entry_text returns.1 (endsNumber_further entryText es (endsNumber_brace rest))
      rw [further_cons, List.cons_append, List.append_assoc, entryText_append, entries_comma read,
        ih returns.2 (Nat.lt_of_succ_lt_succ enough)]
      rfl

theorem entries_text (returns : ∀ e ∈ es, Returns item e.2) (enough : es.length < fuel) (rest : List Char) :
    entries item fuel true (entriesText es ++ '\x7d' :: rest) = .ok (es, rest) := by
  cases fuel with
  | zero => cases enough
  | succ fuel =>
    cases es with
    | nil => rfl
    | cons e es =>
      rw [List.forall_mem_cons] at returns
      have read := entry_text returns.1 (endsNumber_further entryText es (endsNumber_brace rest))
      rw [entriesText_cons, List.append_assoc, entryText_append, entries_first read,
        entries_further returns.2 (Nat.lt_of_succ_lt_succ enough)]
      rfl

end

/-- The letters and signs that `value` tries before a digit are none. -/
theorem value_digit (digit : c.isDigit = true) :
    value depth (c :: s) = (numeral false (c :: s)).map fun (n, s) => (.number n, s) := by
  have other (d : Char) (h : d.isDigit = false) : c ≠ d := by
    rintro rfl
    rw [h] at digit
    cases digit
  rw [value.eq_def, skipBlanks_cons (opens_digit digit).visible]
  simp only [other 'n' rfl, other 't' rfl, other 'f' rfl, other '-' rfl, if_false, digit, if_true]

/-- What is written for a value is read as that value, whatever follows that cannot go on with a number. -/
theorem IsPlain.returns (plain : v.IsPlain depth) : Returns (value depth) v := by
  -- On the structure of the value; the depth goes down with it.
  induction plain with
  | null =>
    intro rest _
    rw [value.eq_def]
    rfl
  | bool b =>
    intro rest _
    rw [value.eq_def]
    cases b <;> rfl
  | natural n =>
    intro rest ends
    have read := numeral_toDigits false n.toNat_lt ends
    rw [text_natural]
    cases written : Nat.toDigits 10 n.toNat with
    | nil => exact absurd written Nat.toDigits_ne_nil
    | cons c digits =>
      have digit : c.isDigit = true := isDigit_toDigits (n := n.toNat) (by simp [written])
      rw [written, List.cons_append] at read
      rw [List.cons_append, value_digit digit, read]
      simp [Except.map, whole]
  | @negative _ n below =>
    intro rest ends
    have least := n.minValue_le_toInt
    have small : n.toInt.natAbs < UInt64.size := by
      simp at least
      simp [UInt64.size]
      omega
    rw [text_negative below, List.cons_append, value.eq_def]
    show Except.map _ (numeral true (Nat.toDigits 10 n.toInt.natAbs ++ rest)) = _
    rw [numeral_toDigits true small ends, whole_negative below]
    rfl
  | string s =>
    intro rest _
    rw [text, stringText_append, value.eq_def]
    show Except.map _ (characters (s.toList.flatMap escape ++ '"' :: rest)) = _
    rw [characters_flatMap]
    simp [Except.map]
  | @array depth items plain ih =>
    intro rest _
    have written : text (.array items) ++ rest = '[' :: (itemsText items ++ ']' :: rest) := by simp [text]
    -- Every item takes a character, so the fuel is enough.
    have enough : items.length < (itemsText items ++ ']' :: rest).length + 1 := by
      have := length_itemsText items
      rw [List.length_append, List.length_cons]
      omega
    rw [written, value.eq_def]
    show Except.map _ (Json.items (value depth) _ true (itemsText items ++ ']' :: rest)) = _
    rw [items_text plain ih enough]
    rfl
  | @object depth entries distinct plain ih =>
    intro rest _
    have written : text (.object entries) ++ rest = '\x7b' :: (entriesText entries ++ '\x7d' :: rest) := by
      simp [text]
    have enough : entries.length < (entriesText entries ++ '\x7d' :: rest).length + 1 := by
      have := length_entriesText entries
      rw [List.length_append, List.length_cons]
      omega
    rw [written, value.eq_def]
    show Except.map _ (Json.entries (value depth) _ true (entriesText entries ++ '\x7d' :: rest)) = _
    rw [entries_text ih enough, ← record_eq distinct]
    rfl

/-- A text written for a value is read as that value. -/
theorem ofText_compact (plain : v.IsPlain depthLimit) : ofText v.compact = .ok v := by
  have read := plain.returns [] endsNumber_nil
  rw [List.append_nil] at read
  simp only [ofText, compact, String.toList_ofList, ofChars, read]
  rfl

def Printable (s : List Char) : Prop :=
  ∀ c ∈ s, 0x20 ≤ c.toNat

theorem printable_cons : Printable (c :: s) ↔ 0x20 ≤ c.toNat ∧ Printable s := List.forall_mem_cons

theorem printable_append {s' : List Char} : Printable (s ++ s') ↔ Printable s ∧ Printable s' :=
  List.forall_mem_append

theorem printable_nil : Printable [] := nofun

theorem printable_toDigits (n : Nat) : Printable (Nat.toDigits 10 n) := by
  intro c mem
  have digit := isDigit_toDigits mem
  simp only [Char.isDigit, Bool.and_eq_true, decide_eq_true_eq] at digit
  have := UInt32.le_iff_toNat_le.mp digit.1
  exact Nat.le_trans (by decide) this

theorem printable_escape (c : Char) : Printable (escape c) := by
  rcases escape_cases c with ⟨e, he, written⟩ | ⟨-, written⟩ | ⟨-, -, notControl, written⟩
  · have among : e ∈ ['"', '\\', '/', 'b', 'f', 'n', 'r', 't'] := by
      unfold plainEscape? at he
      grind
    have visible : 0x20 ≤ e.toNat := by
      simp only [List.mem_cons, List.not_mem_nil, or_false] at among
      rcases among with rfl | rfl | rfl | rfl | rfl | rfl | rfl | rfl <;> decide
    rw [written]
    simp [printable_cons, printable_nil, visible]
  · have hex (n : Nat) : 0x20 ≤ (hexDigit n).toNat := by
      have each : ∀ k < 16, 0x20 ≤ (Nat.digitChar k).toNat := by decide
      exact each _ (Nat.mod_lt n (by decide))
    rw [written]
    simp [printable_cons, printable_nil, hex]
  · rw [written, printable_cons]
    exact ⟨Nat.le_of_not_lt notControl, printable_nil⟩

theorem printable_stringText (k : String) : Printable (stringText k) := by
  simp only [stringText, printable_cons, printable_append, printable_nil, and_true]
  refine ⟨by decide, ?_, by decide⟩
  intro c mem
  obtain ⟨d, -, among⟩ := List.mem_flatMap.mp mem
  exact printable_escape d c among

theorem printable_further {α : Type} {write : α → List Char} {xs : List α}
    (each : ∀ x ∈ xs, Printable (write x)) : Printable (further write xs) := by
  induction xs with
  | nil => exact printable_nil
  | cons x xs ih =>
    rw [List.forall_mem_cons] at each
    rw [further_cons, printable_cons, printable_append]
    exact ⟨by decide, each.1, ih each.2⟩

theorem IsPlain.printable (plain : v.IsPlain depth) : Printable v.text := by
  induction plain with
  | null => simp [Printable, text]
  | bool b => cases b <;> simp [Printable, text]
  | natural n =>
    rw [text_natural]
    exact printable_toDigits _
  | negative below =>
    rw [text_negative below, printable_cons]
    exact ⟨by decide, printable_toDigits _⟩
  | string s =>
    rw [text]
    exact printable_stringText s
  | @array depth items _ ih =>
    have inner : Printable (itemsText items) := by
      cases items with
      | nil => exact printable_nil
      | cons v vs =>
        rw [List.forall_mem_cons] at ih
        rw [itemsText_cons, printable_append]
        exact ⟨ih.1, printable_further ih.2⟩
    simp only [text, printable_cons, printable_append, printable_nil, and_true]
    exact ⟨by decide, inner, by decide⟩
  | @object depth entries _ _ ih =>
    have each : ∀ e ∈ entries, Printable (entryText e) := by
      intro e mem
      rw [entryText, printable_append, printable_cons]
      exact ⟨printable_stringText e.1, by decide, ih e mem⟩
    have inner : Printable (entriesText entries) := by
      cases entries with
      | nil => exact printable_nil
      | cons e es =>
        rw [List.forall_mem_cons] at each
        rw [entriesText_cons, printable_append]
        exact ⟨each.1, printable_further each.2⟩
    simp only [text, printable_cons, printable_append, printable_nil, and_true]
    exact ⟨by decide, inner, by decide⟩

end DiagramLinks.Json
