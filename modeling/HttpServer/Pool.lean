import HttpServer.Handler
import HttpServer.Text.Decimal

/-!
A pool of workers that take tasks from one queue. It is a transition system: a move is one
critical section on the queue, one notification, or one thing that a worker does on its own. One
call to start, stop or resize the pool is under way at a time; tasks are added and workers go on
beside it.
-/

namespace HttpServer

namespace Pool

inductive WorkerState (α : Type)
  | awake
  | asleep
  | busy (task : α)
  | finished
deriving DecidableEq, Repr

structure Worker (α : Type) where
  generation : Nat
  state : WorkerState α := .awake
deriving DecidableEq, Repr

inductive Call
  | start
  | stop
  | resize (size : Nat)
deriving DecidableEq, Repr

/-- How far the call that is under way has come. A pool that stops in order to be resized knows
its new size. -/
inductive Stage
  | idle
  | opened (call : Call)
  | waking (resized : Option Nat)
  | joining (resized : Option Nat) (joined : Nat)
  | spawning (next : Nat)
deriving DecidableEq, Repr

end Pool

structure Pool (α : Type) where
  size : Nat
  running : Bool := false
  queue : List α := []
  workers : List (Pool.Worker α) := []
  generation : Nat := 0
  stage : Pool.Stage := .idle
  /-- The number of tasks that were added by a caller who has yet to notify a worker. -/
  unnotified : Nat := 0
deriving DecidableEq, Repr

namespace Pool

def sizeOf (requested : Nat) : Nat :=
  max requested 1

def ofSize {α : Type} (requested : Nat) : Pool α :=
  { size := sizeOf requested }

def Worker.isLive {α : Type} (worker : Worker α) : Bool :=
  match worker.state with
  | .finished => false
  | _ => true

def live {α : Type} (pool : Pool α) : Nat :=
  pool.workers.countP Worker.isLive

def Worker.isAsleep {α : Type} (worker : Worker α) : Bool :=
  match worker.state with
  | .asleep => true
  | _ => false

def Worker.wake {α : Type} (worker : Worker α) : Worker α :=
  if worker.isAsleep then { worker with state := .awake } else worker

def setWorker {α : Type} (pool : Pool α) (index : Nat) (worker : Worker α) : Pool α :=
  { pool with workers := pool.workers.set index worker }

/-! ### Moves -/

inductive Move (α : Type)
  | enqueue (task : α)
  | notify (worker : Option Nat)
  | call (call : Call)
  | proceed
  | failToSpawn (reason : String)
  /-- A worker wakes up although nobody notified it. The notification of a caller whose task was
  refused is of this kind too. -/
  | wake (worker : Nat)
  | look (worker : Nat)
  | finish (worker : Nat) (panic : Option PanicPayload)
deriving DecidableEq, Repr

inductive Effect (α : Type)
  | accepted (task : α)
  | refused (task : α)
  | took (worker : Nat) (task : α)
  | discarded (tasks : List α)
  | log (line : Log.Line)
deriving DecidableEq, Repr

def panicLine (message : String) : Log.Line :=
  Log.error ("Worker task panicked: " ++ message)

def spawnLine (worker : Nat) (reason : String) : Log.Line :=
  Log.error ("Failed to spawn worker-" ++ decimal worker ++ ": " ++ reason)

def enter {α : Type} (pool : Pool α) : Call → Pool α × List (Effect α)
  | .start =>
    if pool.running then ({ pool with stage := .idle }, [])
    else
      ({ pool with running := true, generation := pool.generation + 1, stage := .spawning 0 }, [])
  | .stop =>
    if pool.running then
      ({ pool with running := false, queue := [], stage := .waking none },
        [.discarded pool.queue])
    else ({ pool with stage := .idle }, [])
  | .resize requested =>
    if pool.running then ({ pool with running := false, stage := .waking (some requested) }, [])
    else ({ pool with size := sizeOf requested, stage := .idle }, [])

/-- All workers have been waited for. A pool that was resized starts again. -/
def joined {α : Type} (pool : Pool α) : Option Nat → Pool α
  | none => { pool with workers := [], stage := .idle }
  | some requested =>
    { pool with workers := [], size := sizeOf requested, stage := .opened .start }

def proceed? {α : Type} (pool : Pool α) : Option (Pool α × List (Effect α)) :=
  match pool.stage with
  | .idle => none
  | .opened call => some (pool.enter call)
  | .waking resized =>
    some ({ pool with workers := pool.workers.map Worker.wake, stage := .joining resized 0 }, [])
  | .joining resized count =>
    match pool.workers[count]? with
    | none => some (pool.joined resized, [])
    | some worker =>
      if worker.isLive then none
      else some ({ pool with stage := .joining resized (count + 1) }, [])
  | .spawning next =>
    if next < pool.size then
      some ({ pool with
        workers := pool.workers ++ [⟨pool.generation, .awake⟩], stage := .spawning (next + 1) }, [])
    else some ({ pool with stage := .idle }, [])

def look {α : Type} (pool : Pool α) (index : Nat) (worker : Worker α) :
    Pool α × List (Effect α) :=
  if pool.running then
    match pool.queue with
    | [] => (pool.setWorker index { worker with state := .asleep }, [])
    | task :: rest =>
      ({ pool with queue := rest }.setWorker index { worker with state := .busy task },
        [.took index task])
  else (pool.setWorker index { worker with state := .finished }, [])

/-- What a worker turns to when its task is done, and what it logs. A panic that it cannot stop is
its own end. -/
def afterTask {α : Type} (panic : Option PanicPayload) : WorkerState α × List Log.Line :=
  match panic.map PanicPayload.told with
  | none => (.awake, [])
  | some (.ok message) => (.awake, [panicLine message])
  | some (.error _) => (.finished, [])

def step {α : Type} (pool : Pool α) : Move α → Option (Pool α × List (Effect α))
  | .enqueue task =>
    if pool.running then
      some ({ pool with queue := pool.queue ++ [task], unnotified := pool.unnotified + 1 },
        [.accepted task])
    else some (pool, [.refused task])
  | .notify none =>
    if 0 < pool.unnotified && !pool.workers.any Worker.isAsleep then
      some ({ pool with unnotified := pool.unnotified - 1 }, [])
    else none
  | .notify (some index) =>
    match pool.workers[index]? with
    | some worker =>
      if 0 < pool.unnotified && worker.isAsleep then
        some ({ pool with unnotified := pool.unnotified - 1 }.setWorker index worker.wake, [])
      else none
    | none => none
  | .call call =>
    match pool.stage with
    | .idle => some ({ pool with stage := .opened call }, [])
    | _ => none
  | .proceed => pool.proceed?
  | .failToSpawn reason =>
    match pool.stage with
    | .spawning next =>
      if next < pool.size then
        some ({ pool with stage := .spawning (next + 1) }, [.log (spawnLine next reason)])
      else none
    | _ => none
  | .wake index =>
    match pool.workers[index]? with
    | some worker =>
      if worker.isAsleep then some (pool.setWorker index worker.wake, []) else none
    | none => none
  | .look index =>
    match pool.workers[index]? with
    | some ⟨generation, .awake⟩ => some (pool.look index ⟨generation, .awake⟩)
    | _ => none
  | .finish index panic =>
    match pool.workers[index]? with
    | some ⟨generation, .busy _⟩ =>
      let (state, lines) := afterTask panic
      some (pool.setWorker index ⟨generation, state⟩, lines.map .log)
    | _ => none

def run {α : Type} (pool : Pool α) : List (Move α) → Option (Pool α × List (Effect α))
  | [] => some (pool, [])
  | move :: rest => do
    let (pool, effects) ← pool.step move
    let (pool, later) ← run pool rest
    return (pool, effects ++ later)

/-! ### Whole calls

What a call leaves behind when nothing else goes on and every task comes to its end. -/

def start {α : Type} (pool : Pool α) : Pool α :=
  if pool.running then pool
  else
    let generation := pool.generation + 1
    { pool with
      running := true
      generation
      workers := List.replicate pool.size ⟨generation, .awake⟩ }

def stop {α : Type} (pool : Pool α) : Pool α :=
  if pool.running then { pool with running := false, queue := [], workers := [] } else pool

def resize {α : Type} (pool : Pool α) (requested : Nat) : Pool α :=
  if pool.running then
    start { pool with running := false, workers := [], size := sizeOf requested }
  else { pool with size := sizeOf requested }

def enqueue {α : Type} (pool : Pool α) (task : α) : Pool α × Bool :=
  if pool.running then ({ pool with queue := pool.queue ++ [task] }, true) else (pool, false)

end Pool

end HttpServer
