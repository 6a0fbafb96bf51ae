namespace DiagramLinks

/-- A value with a count of its changes. A watcher remembers the count it has seen, so several changes
before it looks show as one. -/
structure Watched (α : Type) where
  value : α
  /-- How often the value was changed. -/
  changes : Nat
  /-- Whether it can still change. -/
  live : Bool
deriving Repr, DecidableEq

namespace Watched

variable {α : Type}

def new (a : α) : Watched α := ⟨a, 0, true⟩

/-- Counts as a change even if the value stays equal. -/
def replace (w : Watched α) (a : α) : Watched α :=
  { w with value := a, changes := w.changes + 1 }

/-- Writing an equal value is no change. -/
def write [DecidableEq α] (w : Watched α) (a : α) : Watched α :=
  if w.value = a then w else w.replace a

/-- Ends the changes; the value stays readable. -/
def close (w : Watched α) : Watched α :=
  { w with live := false }

/-- Whether a watcher who last saw the count `seen` has a change to look at. -/
def isNews (w : Watched α) (seen : Nat) : Bool :=
  w.changes != seen

end Watched

/-- An activation store and its watchers, each with the count it has seen. One that left is `none`. -/
structure ActivationStore where
  cell : Watched Bool
  watchers : List (Option Nat)
deriving Repr, DecidableEq

namespace ActivationStore

def new (activated : Bool) : ActivationStore := ⟨.new activated, []⟩

/-- A new watcher has seen the current value. -/
def watch (s : ActivationStore) : ActivationStore :=
  { s with watchers := s.watchers ++ [some s.cell.changes] }

def set (s : ActivationStore) (activated : Bool) : ActivationStore :=
  { s with cell := s.cell.write activated }

def isWatching (s : ActivationStore) (i : Nat) : Bool :=
  (s.watchers.getD i none).isSome

def look (s : ActivationStore) (i : Nat) : ActivationStore :=
  { s with watchers := s.watchers.modify i (Option.map fun _ => s.cell.changes) }

def leave (s : ActivationStore) (i : Nat) : ActivationStore :=
  { s with watchers := s.watchers.modify i fun _ => none }

/-- For each watcher that is still there, whether it has a change to look at. -/
def news (s : ActivationStore) : List (Option Bool) :=
  s.watchers.map (Option.map s.cell.isNews)

def read? (s : ActivationStore) (i : Nat) : Option Bool :=
  if s.isWatching i then some s.cell.value else none

inductive Step
  | watch
  | set (activated : Bool)
  | look (watcher : Nat)
  | leave (watcher : Nat)
deriving Repr, DecidableEq

def step (s : ActivationStore) : Step → ActivationStore
  | .watch => s.watch
  | .set activated => s.set activated
  | .look i => s.look i
  | .leave i => s.leave i

end ActivationStore

end DiagramLinks
