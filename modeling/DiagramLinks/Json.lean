namespace DiagramLinks

/-- Integers of 64 bits stay apart from doubles: `1` and `1.0` are different numbers. -/
inductive Json.Number
  | natural (n : UInt64)
  | negative (n : Int64)
  | double (x : Float)

/-- Objects keep the order of their entries; look-up takes the first entry of a name. -/
inductive Json
  | null
  | bool (b : Bool)
  | number (n : Json.Number)
  | string (s : String)
  | array (items : List Json)
  | object (entries : List (String × Json))
deriving Inhabited

namespace Json

/-- The number as a double; a negative one is rounded by its size. -/
def Number.toDouble : Number → Float
  | natural n => n.toFloat
  | negative n =>
    let size := n.toInt.natAbs.toUInt64.toFloat
    if n < 0 then -size else size
  | double x => x

/-- The value under a key; `none` also for a value that is no object. -/
def get? (v : Json) (key : String) : Option Json :=
  match v with
  | object entries => entries.lookup key
  | _ => none

def bool? : Json → Option Bool
  | bool b => some b
  | _ => none

/-- An integer without sign, fraction or exponent. -/
def natural? : Json → Option UInt64
  | number (.natural n) => some n
  | _ => none

def string? : Json → Option String
  | string s => some s
  | _ => none

/-- Writes an entry: a known name keeps its place and takes the new value. -/
def put (entries : List (String × Json)) (key : String) (v : Json) : List (String × Json) :=
  match entries with
  | [] => [(key, v)]
  | (k, old) :: rest => if k = key then (k, v) :: rest else (k, old) :: put rest key v

/-- The object that entries make when they are written one after the other. -/
def record (entries : List (String × Json)) : Json :=
  object (entries.foldl (fun known e => put known e.1 e.2) [])

theorem put_of_notMem {entries : List (String × Json)} {key : String} (v : Json)
    (new : key ∉ entries.map Prod.fst) : put entries key v = entries ++ [(key, v)] := by
  induction entries with
  | nil => rfl
  | cons e rest ih =>
    obtain ⟨k, old⟩ := e
    rw [List.map_cons, List.mem_cons, not_or] at new
    rw [put, if_neg (Ne.symm new.1), ih new.2, List.cons_append]

theorem foldl_put (known entries : List (String × Json))
    (distinct : ((known ++ entries).map Prod.fst).Nodup) :
    entries.foldl (fun known e => put known e.1 e.2) known = known ++ entries := by
  induction entries generalizing known with
  | nil => simp
  | cons e rest ih =>
    have new : e.1 ∉ known.map Prod.fst := by
      intro mem
      rw [List.map_append, List.nodup_append] at distinct
      exact distinct.2.2 e.1 mem e.1 (by simp) rfl
    rw [List.foldl_cons, put_of_notMem e.2 new, ih _ (by simpa using distinct)]
    simp

theorem record_eq {entries : List (String × Json)} (distinct : (entries.map Prod.fst).Nodup) :
    record entries = object entries := by
  rw [record, foldl_put [] entries (by simpa using distinct), List.nil_append]

end Json

end DiagramLinks
