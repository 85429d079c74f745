import HttpServer.Server
import HttpServer.Tls.Identity

/-!
The life of a server: the calls to start and to stop it, each going on step by step beside the
others. A start call loads an identity if it is to speak TLS, marks the server as running, opens
its listener, makes it known, accepts connections until the listener is stopped, and on every way
out withdraws all of that again. A step is one access to the state that calls share, or one call
of the operating system, whose answer comes with the move.
-/

namespace HttpServer

inductive RunEnding
  | finished
  | failed (error : ServerError)
  | panicked
deriving DecidableEq, Repr

namespace RunEnding

def error? : RunEnding → Option ServerError
  | .failed error => some error
  | _ => none

end RunEnding

inductive StartStage
  | load (certificatePath keyPath : String)
  | enter
  | bind
  | listen
  | publish
  /-- A stop may have come before the listener was known. -/
  | recheck
  | startPool
  | announce
  | loop
  | await
  | received (arrival : Except IoError Connection)
  | hand (connection : Connection)
  | stopPool
  | conclude
  | fail (error : ServerError)
  | clearRunning (ending : RunEnding)
  | withdraw (ending : RunEnding)
  | releasePool (ending : RunEnding)
  | returned (ending : RunEnding)

def StartStage.isInside : StartStage → Bool
  | .load .. | .enter | .clearRunning _ | .withdraw _ | .releasePool _ | .returned _ => false
  | _ => true

structure StartCall where
  host : String
  port : Nat
  secure : Bool := false
  stage : StartStage := .enter
  listener : Listener := {}

def StartCall.made (host : String) (port : Nat) : (identity : Option (String × String)) → StartCall
  | none => { host, port }
  | some (certificatePath, keyPath) =>
    { host, port, secure := true, stage := .load certificatePath keyPath }

inductive StopStage
  | clear
  | lookUp
  | close (start : Nat)
  | returned
deriving DecidableEq, Repr

/-- A server with all the calls that were made on it. -/
structure Activity where
  server : Server
  starts : List StartCall := []
  stops : List StopStage := []

namespace Activity

inductive Move
  | start (host : String) (port : Nat) (identity : Option (String × String))
  | stop
  | loaded (call : Nat) (library : Tls.Library) (files : FileTree)
  | bound (call : Nat) (opens : SocketAddress → Except IoError SocketAddress)
  | listened (call : Nat) (failure : Option IoError)
  | arrived (call : Nat) (arrival : Except IoError Connection)
  | proceed (call : Nat)
  /-- A start call panics between its first check and its way out. -/
  | panic (call : Nat)
  | proceedStop (call : Nat)
  | startPool
  | stopPool
  | resizePool (requested : Nat)

inductive Effect
  | log (line : Log.Line)
  | queued (call : Nat) (task : ConnectionTask)
  | ran (call : Nat) (task : ConnectionTask)
  | dropped (call : Nat) (task : ConnectionTask)

def loadedLine : Log.Line :=
  Log.info "TLS context initialized"

def notLoadedLine (error : TlsError) : Log.Line :=
  Log.error ("Failed to initialize TLS: " ++ error.message)

def startedLine (server : Server) (call : StartCall) : Log.Line :=
  Log.info ("Server started on " ++ (if call.secure then "https" else "http") ++ "://" ++
    ((call.listener.address.map SocketAddress.text).getD "") ++ " (" ++ decimal server.pool.size ++
    " workers, max connections hint " ++ decimal server.options.maxConnections ++ ")")

def stoppedLine : Log.Line :=
  Log.info "Server stopped"

def failedLine (error : ServerError) : Log.Line :=
  Log.error ("Failed to start server: " ++ error.message)

def droppedLine (connection : Connection) : Log.Line :=
  Log.warning ("Dropped connection from " ++ connection.peer ++ ": pool is stopped")

def setStart (activity : Activity) (index : Nat) (call : StartCall) : Activity :=
  { activity with starts := activity.starts.set index call }

def setServer (activity : Activity) (server : Server) : Activity :=
  { activity with server }

def hand (activity : Activity) (index : Nat) (connection : Connection) :
    Activity × List Effect :=
  let server := activity.server
  let task : ConnectionTask := { router := server.router, connection }
  if server.options.threaded then
    let (pool, accepted) := server.pool.enqueue task
    if accepted then (activity.setServer { server with pool }, [.queued index task])
    else (activity, [.dropped index task, .log (droppedLine connection)])
  else (activity, [.ran index task])

def proceedStart? (activity : Activity) (index : Nat) (call : StartCall) :
    Option (Activity × List Effect) :=
  let server := activity.server
  let next (stage : StartStage) := activity.setStart index { call with stage }
  match call.stage with
  | .enter =>
    if server.running then some (next (.returned (.failed .alreadyRunning)), [])
    else some ((next .bind).setServer { server with running := true }, [])
  | .publish => some ((next .recheck).setServer { server with published := some index }, [])
  | .recheck =>
    if server.running then some (next .startPool, [])
    else
      some (activity.setStart index
        { call with listener := call.listener.stop, stage := .startPool }, [])
  | .startPool =>
    if server.options.threaded then
      some ((next .announce).setServer { server with pool := server.pool.start }, [])
    else some (next .announce, [])
  | .announce => some (next .loop, [.log (startedLine server call)])
  | .loop => some (next (if call.listener.running then .await else .stopPool), [])
  | .received arrival =>
    if call.listener.running then
      match arrival with
      | .ok connection => some (next (.hand connection), [])
      | .error error => some (next .loop, [.log (Listener.failureLine error)])
    else some (next .stopPool, [])
  | .hand connection => some ((next .loop).hand index connection)
  | .stopPool => some ((next .conclude).setServer { server with pool := server.pool.stop }, [])
  | .conclude => some (next (.clearRunning .finished), [.log stoppedLine])
  | .fail error => some (next (.clearRunning (.failed error)), [.log (failedLine error)])
  | .clearRunning ending =>
    some ((next (.withdraw ending)).setServer { server with running := false }, [])
  | .withdraw ending =>
    some ((next (.releasePool ending)).setServer { server with published := none }, [])
  | .releasePool ending =>
    some ((next (.returned ending)).setServer { server with pool := server.pool.stop }, [])
  | .load .. | .bind | .listen | .await | .returned _ => none

def stopStart (activity : Activity) (index : Nat) : Activity :=
  match activity.starts[index]? with
  | some call => activity.setStart index { call with listener := call.listener.stop }
  | none => activity

def proceedStop? (activity : Activity) (index : Nat) (stage : StopStage) : Option Activity :=
  let next (stage : StopStage) := { activity with stops := activity.stops.set index stage }
  match stage with
  | .clear =>
    if activity.server.running then
      some ((next .lookUp).setServer { activity.server with running := false })
    else some (next .returned)
  | .lookUp =>
    match activity.server.published with
    | some start => some (next (.close start))
    | none => some (next .returned)
  | .close start => some ((next .returned).stopStart start)
  | .returned => none

def step (activity : Activity) : Move → Option (Activity × List Effect)
  | .start host port identity =>
    some ({ activity with starts := activity.starts ++ [.made host port identity] }, [])
  | .stop => some ({ activity with stops := activity.stops ++ [.clear] }, [])
  | .loaded index library files => do
    let call ← activity.starts[index]?
    match call.stage with
    | .load certificatePath keyPath =>
      match TlsIdentity.load library files certificatePath keyPath with
      | .ok _ => return (activity.setStart index { call with stage := .enter }, [.log loadedLine])
      | .error error =>
        return (activity.setStart index { call with stage := .returned (.failed (.tls error)) },
          [.log (notLoadedLine error)])
    | _ => none
  | .bound index opens => do
    let call ← activity.starts[index]?
    match call.stage with
    | .bind =>
      match call.listener.bind call.host call.port opens with
      | (listener, .ok _) =>
        return (activity.setStart index { call with listener, stage := .listen }, [])
      | (_, .error error) =>
        return (activity.setStart index { call with stage := .fail error }, [])
    | _ => none
  | .listened index failure => do
    let call ← activity.starts[index]?
    match call.stage with
    | .listen =>
      match call.listener.listen failure with
      | (listener, .ok ()) =>
        return (activity.setStart index { call with listener, stage := .publish }, [])
      | (_, .error error) =>
        return (activity.setStart index { call with stage := .fail error }, [])
    | _ => none
  | .arrived index arrival => do
    let call ← activity.starts[index]?
    match call.stage with
    | .await => return (activity.setStart index { call with stage := .received arrival }, [])
    | _ => none
  | .proceed index => do activity.proceedStart? index (← activity.starts[index]?)
  | .panic index => do
    let call ← activity.starts[index]?
    if call.stage.isInside then
      return (activity.setStart index { call with stage := .clearRunning .panicked }, [])
    else none
  | .proceedStop index => do
    return (← activity.proceedStop? index (← activity.stops[index]?), [])
  | .startPool =>
    let server := activity.server
    some (activity.setServer { server with pool := server.pool.start }, [])
  | .stopPool =>
    let server := activity.server
    some (activity.setServer { server with pool := server.pool.stop }, [])
  | .resizePool requested =>
    let (server, line) := activity.server.setPoolSize requested
    some (activity.setServer server, [.log line])

def run (activity : Activity) : List Move → Option (Activity × List Effect)
  | [] => some (activity, [])
  | move :: rest => do
    let (activity, effects) ← activity.step move
    let (activity, later) ← run activity rest
    return (activity, effects ++ later)

def address? (activity : Activity) : Option SocketAddress := do
  let call ← activity.starts[← activity.server.published]?
  call.listener.address

/-! ### One call at a time -/

/-- How everything outside answers a start call. -/
structure System where
  opens : SocketAddress → Except IoError SocketAddress
  listens : Int → Option IoError := fun _ => none
  library : Tls.Library
  files : FileTree := {}

def startMove? (system : System) (activity : Activity) (index : Nat) : Option Move :=
  match activity.starts[index]?.map StartCall.stage with
  | some (.load ..) => some (.loaded index system.library system.files)
  | some .bind => some (.bound index system.opens)
  | some .listen => some (.listened index (system.listens activity.server.options.backlog))
  | some .await | some (.returned _) | none => none
  | some _ => some (.proceed index)

def advanceWithin (system : System) (index : Nat) :
    Nat → Activity → List Effect → Activity × List Effect
  | 0, activity, effects => (activity, effects)
  | bound + 1, activity, effects =>
    match (startMove? system activity index).bind activity.step with
    | none => (activity, effects)
    | some (activity, more) => advanceWithin system index bound activity (effects ++ more)

def stagesBound : Nat := 20

def advance (system : System) (activity : Activity) (index : Nat) : Activity × List Effect :=
  advanceWithin system index stagesBound activity []

def start (system : System) (activity : Activity) (host : String) (port : Nat)
    (identity : Option (String × String)) : Activity × List Effect :=
  advance system
    { activity with starts := activity.starts ++ [.made host port identity] }
    activity.starts.length

def stopWithin (index : Nat) : Nat → Activity → Activity
  | 0, activity => activity
  | bound + 1, activity =>
    match activity.stops[index]?.bind (activity.proceedStop? index) with
    | none => activity
    | some activity => stopWithin index bound activity

def stop (activity : Activity) : Activity :=
  stopWithin activity.stops.length 3 { activity with stops := activity.stops ++ [.clear] }

def closedError : IoError :=
  ⟨"InvalidInput", "Invalid argument (os error 22)"⟩

/-- Makes a stop call, and carries a start call that waits for a connection to its end. -/
def stopRun (system : System) (activity : Activity) (index : Nat) : Activity × List Effect :=
  let activity := activity.stop
  match activity.step (.arrived index (.error closedError)) with
  | none => (activity, [])
  | some (activity, effects) =>
    let (activity, more) := activity.advance system index
    (activity, effects ++ more)

def lastEnding? (activity : Activity) : Option RunEnding :=
  match activity.starts.getLast?.map StartCall.stage with
  | some (.returned ending) => some ending
  | _ => none

end Activity

end HttpServer
