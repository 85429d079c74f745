import HttpServer.Pool

/-!
Jobs on a pool, under the schedule in which every worker goes on as soon as it can, the first
worker first.
-/

namespace HttpServer.Pool

inductive Job
  | record (text : String)
  | block (text : String) (gate : Nat)
  | panic (payload : PanicPayload)
deriving DecidableEq, Repr

structure Schedule where
  pool : Pool Job
  records : List String := []
  lines : List Log.Line := []
  gate : Nat := 0

namespace Schedule

def ofSize (requested : Nat) : Schedule :=
  { pool := Pool.ofSize requested }

def opening : Effect Job → List String
  | .took _ (.block text _) => ["start " ++ text]
  | _ => []

def closing : Job → List String
  | .record text => [text]
  | .block text _ => ["end " ++ text]
  | .panic _ => []

def Job.panic? : Job → Option PanicPayload
  | .panic payload => some payload
  | _ => none

def logged : Effect Job → Option Log.Line
  | .log line => some line
  | _ => none

def apply (schedule : Schedule) (move : Move Job) : Schedule :=
  match schedule.pool.step move with
  | none => schedule
  | some (pool, effects) =>
    let closed := match move with
      | .finish worker _ =>
        match schedule.pool.workers[worker]?.map Worker.state with
        | some (.busy job) => closing job
        | _ => []
      | _ => []
    { schedule with
      pool
      records := schedule.records ++ closed ++ effects.flatMap opening
      lines := schedule.lines ++ effects.filterMap logged }

def ownMove? (gate index : Nat) (worker : Worker Job) : Option (Move Job) :=
  match worker.state with
  | .awake => some (.look index)
  | .busy (.block _ needed) => if needed < gate then some (.finish index none) else none
  | .busy job => some (.finish index (Job.panic? job))
  | _ => none

def firstMove? (gate index : Nat) : List (Worker Job) → Option (Move Job)
  | [] => none
  | worker :: rest => (ownMove? gate index worker).or (firstMove? gate (index + 1) rest)

def settleWithin : Nat → Schedule → Schedule
  | 0, schedule => schedule
  | bound + 1, schedule =>
    match firstMove? schedule.gate 0 schedule.pool.workers with
    | none => schedule
    | some move => settleWithin bound (schedule.apply move)

/-- A bound on the moves that workers make before all of them wait: each awake worker looks once
more, each busy one finishes first, and each task is taken, finished, and looked after. -/
def ownMoves (pool : Pool Job) : Nat :=
  3 * pool.queue.length + 2 * pool.workers.length

def settle (schedule : Schedule) : Schedule :=
  settleWithin (ownMoves schedule.pool) schedule

def enqueue (schedule : Schedule) (job : Job) : Schedule × Bool :=
  let accepted := schedule.pool.running
  let schedule := schedule.apply (.enqueue job)
  let sleeper := schedule.pool.workers.findIdx? Worker.isAsleep
  ((schedule.apply (.notify sleeper)).settle, accepted)

def openGate (schedule : Schedule) : Schedule :=
  { schedule with gate := schedule.gate + 1 }.settle

def carryWithin : Nat → Schedule → Schedule
  | 0, schedule => schedule
  | bound + 1, schedule => carryWithin bound (schedule.apply .proceed).settle

def carry (schedule : Schedule) (call : Call) : Schedule :=
  let size := match call with
    | .resize requested => sizeOf requested
    | _ => schedule.pool.size
  carryWithin (schedule.pool.workers.length + size + 8) schedule

def call (schedule : Schedule) (call : Call) : Schedule :=
  (schedule.apply (.call call)).carry call

/-- Makes a call, and opens the gate as soon as the call has marked the pool as stopped. -/
def callReleasing (schedule : Schedule) (call : Call) : Schedule :=
  ((schedule.apply (.call call)).apply .proceed).openGate.carry call

end Schedule

end HttpServer.Pool
