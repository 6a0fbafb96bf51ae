import DiagramLinks.Workspace.Move

namespace DiagramLinks

/-- One order of steps: tasks run in the order in which they became ready, each as far as it gets, and
time passes only when none is ready. `sleeping` lists the tasks that wait for a point in time, in the
order in which they began to wait. -/
structure Schedule where
  workspace : Workspace
  queue : List TaskNo
  sleeping : List TaskNo

namespace Schedule

def ofWorkspace (w : Workspace) : Schedule := ⟨w, [], []⟩

/-- The tasks that run on their own; a job without a tag is run by its caller. -/
def isOwn (task : Task) : Bool :=
  match task.activity with
  | .job _ none _ => false
  | _ => true

def wakes? (w : Workspace) (t : TaskNo) : Option Nat :=
  match w.tasks[t]? with
  | none => none
  | some task =>
    if task.ended || task.aborted then none
    else task.activity.due?.filter (w.now < ·)

/-- Takes note of the tasks that became ready or fell asleep. -/
def refresh (s : Schedule) : Schedule :=
  let w := s.workspace
  let numbers := List.range w.tasks.length
  let woken := numbers.filter fun t =>
    (w.tasks[t]?.map isOwn).getD false && w.isReady t && !s.queue.contains t
  let asleep := numbers.filter fun t => (wakes? w t).isSome && !s.sleeping.contains t
  { s with queue := s.queue ++ woken, sleeping := s.sleeping ++ asleep }

def update (s : Schedule) (f : Workspace → Workspace) : Schedule :=
  { s with workspace := f s.workspace }.refresh

/-- Bounds the number of steps between two points in time. -/
def stepLimit : Nat := 1000000

def runTask (w : Workspace) (t : TaskNo) : Nat → Workspace
  | 0 => w
  | limit + 1 => if w.isReady t then runTask (w.move (.step t)) t limit else w

/-- Runs ready tasks until none is left. -/
def settleWithin (s : Schedule) : Nat → Schedule
  | 0 => s
  | limit + 1 =>
    match s.queue with
    | [] => s
    | t :: rest =>
      settleWithin ({ s with queue := rest }.update fun w => runTask w t stepLimit) limit

def settle (s : Schedule) : Schedule :=
  s.refresh.settleWithin stepLimit

def nextWake? (s : Schedule) : Option Nat :=
  (s.sleeping.filterMap (wakes? s.workspace)).min?

/-- Lets time pass to a point; the tasks that wake then become ready in the order in which they fell
asleep. -/
def passTo (s : Schedule) (time : Nat) : Schedule :=
  let w := s.workspace.move (.wait (time - s.workspace.now))
  let stillAsleep (t : TaskNo) : Bool := (wakes? w t).isSome
  let woken := (s.sleeping.filter (!stillAsleep ·)).filter fun t =>
    (w.tasks[t]?.map isOwn).getD false && w.isReady t && !s.queue.contains t
  let s : Schedule :=
    { workspace := w, queue := s.queue ++ woken, sleeping := s.sleeping.filter stillAsleep }
  s.refresh

/-- Lets time pass up to and including `time`, every task running when it is due. -/
def advanceWithin (s : Schedule) (time : Nat) : Nat → Schedule
  | 0 => s
  | limit + 1 =>
    let s := s.settle
    match s.nextWake? with
    | none => (s.passTo time).settle
    | some wake =>
      if wake ≤ time then advanceWithin (s.passTo wake) time limit else (s.passTo time).settle

def advance (s : Schedule) (milliseconds : Nat) : Schedule :=
  s.advanceWithin (s.workspace.now + milliseconds) stepLimit

/-- The outcome of a job that has ended. -/
def outcome? (w : Workspace) (t : TaskNo) : Option Outcome :=
  match w.tasks[t]?.map Task.activity with
  | some (.job r _ (.ended result)) => some (r.outcome result)
  | _ => none

/-- Runs a job of the caller to its end. While it waits for a host, other tasks run and time passes;
when its answer is due it goes on before them. -/
def awaitWithin (s : Schedule) (t : TaskNo) : Nat → Schedule
  | 0 => s
  | limit + 1 =>
    let s := s.update fun w => runTask w t stepLimit
    match outcome? s.workspace t with
    | some _ => s
    | none =>
      let s := s.settle
      match s.nextWake? with
      | none => s
      | some wake => awaitWithin (s.passTo wake) t limit

/-- Carries out a request for a caller that waits for its end. -/
def await (s : Schedule) (r : Request) : Schedule × Option Outcome :=
  let t := s.workspace.tasks.length
  let s := (s.update fun w => w.move (.request r none)).awaitWithin t stepLimit
  (s, outcome? s.workspace t)

end Schedule

end DiagramLinks
