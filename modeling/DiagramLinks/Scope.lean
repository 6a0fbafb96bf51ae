namespace DiagramLinks

abbrev TaskNo := Nat

/-- A token, as its path from the scope. -/
abbrev Token := List Nat

/-- A scope owns the tasks of a session and the tokens that they watch. Releasing it cancels all tokens
and names the tasks that are to be aborted. -/
structure Scope where
  /-- Tokens that were cancelled themselves. -/
  cancelled : List Token
  /-- How many tokens were handed out. -/
  issued : Nat
  /-- Tasks to abort at the next release. -/
  tracked : List TaskNo
deriving Repr, DecidableEq

namespace Scope

def new : Scope := ⟨[], 0, []⟩

/-- The token of the scope itself, which is never handed out. -/
def root : Token := []

def issue (s : Scope) (parent : Token) : Scope × Token :=
  ({ s with issued := s.issued + 1 }, parent ++ [s.issued])

def cancel (s : Scope) (t : Token) : Scope :=
  { s with cancelled := t :: s.cancelled }

/-- Whether a token or one above it was cancelled. -/
def isCancelled (s : Scope) (t : Token) : Bool :=
  s.cancelled.any (·.isPrefixOf t)

def isReleased (s : Scope) : Bool :=
  s.isCancelled root

/-- Tracks a task, and forgets those that have finished. -/
def track (s : Scope) (isFinished : TaskNo → Bool) (t : TaskNo) : Scope :=
  { s with tracked := (s.tracked.filter (!isFinished ·)) ++ [t] }

/-- Cancels everything; the second part lists the tasks to abort. -/
def release (s : Scope) : Scope × List TaskNo :=
  ({ s.cancel root with tracked := [] }, s.tracked)

end Scope

/-- A scope with all that was asked of it: the tokens handed out, and for each task that it ever
tracked whether it has stopped. -/
structure ScopeUse where
  scope : Scope
  dropped : Bool
  tokens : List Token
  stopped : List Bool
deriving Repr, DecidableEq

namespace ScopeUse

inductive Step
  /-- A token below the scope. -/
  | token
  /-- A token below token `of`. -/
  | child (of : Nat)
  | cancel (of : Nat)
  | track
  /-- Task `of` ends by itself. -/
  | finish (of : Nat)
  | release
  | drop
deriving Repr, DecidableEq

def new : ScopeUse := ⟨.new, false, [], []⟩

def issue (u : ScopeUse) (parent : Token) : ScopeUse :=
  let (scope, token) := u.scope.issue parent
  { u with scope, tokens := u.tokens ++ [token] }

def release (u : ScopeUse) : ScopeUse :=
  let (scope, tasks) := u.scope.release
  { u with scope, stopped := tasks.foldl (fun stopped t => stopped.set t true) u.stopped }

/-- After the drop the scope gives out nothing more, but its tokens can still have children. -/
def step (u : ScopeUse) : Step → ScopeUse
  | .token => if u.dropped then u else u.issue Scope.root
  | .child of =>
    match u.tokens[of]? with
    | some parent => u.issue parent
    | none => u
  | .cancel of =>
    match u.tokens[of]? with
    | some t => { u with scope := u.scope.cancel t }
    | none => u
  | .track =>
    if u.dropped then u
    else
      { u with
        scope := u.scope.track (fun t => u.stopped.getD t false) u.stopped.length
        stopped := u.stopped ++ [false] }
  | .finish of => { u with stopped := u.stopped.set of true }
  | .release => if u.dropped then u else u.release
  | .drop => if u.dropped then u else { u.release with dropped := true }

def cancelledTokens (u : ScopeUse) : List Bool :=
  u.tokens.map u.scope.isCancelled

end ScopeUse

end DiagramLinks
