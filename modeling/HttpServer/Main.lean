import HttpServer.CommandLine
import HttpServer.Json.Standard
import HttpServer.Tls.Standard
import Std.Async.System
import Std.Async.TCP
import Std.Sync.Channel

/-!
The program: it asks the system for what the library needs to know, and does what the library
says.
-/

namespace HttpServer.Main

open Std.Async

def environment : IO (List (String × String)) :=
  (Config.Setting.all.filterMap Config.Setting.envName?).filterMapM fun name => do
    return (← IO.getEnv name).map fun value => (name, value)

def now : IO Nat := do
  return (← Std.Time.Timestamp.now).toSecondsSinceUnixEpoch.val.toNat

def readFiles (paths : List String) : IO FileTree :=
  paths.foldlM (fun files (path : String) => do
    match ← (IO.FS.readBinFile path).toBaseIO with
    | .ok content => return files.addFile path content.toList
    | .error _ => return files) {}

def print (outcome : CommandLine.Outcome) : IO UInt32 := do
  IO.print outcome.output
  IO.eprint outcome.errors
  return outcome.status.toUInt32

def ioError (error : IO.Error) : IoError :=
  ⟨"Other", toString error⟩

def report (line : Log.Line) : IO Unit :=
  let event := line.tracing
  IO.println (event.level.toUpper ++ " " ++ event.message)

def toNet : SocketAddress → Std.Net.SocketAddress
  | ⟨.v4 bits, port⟩ =>
    let octet (index : Nat) := (bits.toNat / Nat.pow 256 (3 - index)).toUInt8
    .v4 ⟨⟨.ofFn fun index : Fin 4 => octet index⟩, port.toUInt16⟩
  | ⟨.v6 bits, port⟩ =>
    let group (index : Nat) := (bits.toNat / Nat.pow 65536 (7 - index)).toUInt16
    .v6 ⟨⟨.ofFn fun index : Fin 8 => group index⟩, port.toUInt16⟩

def ofNet : Std.Net.SocketAddress → SocketAddress
  | .v4 ⟨ip, port⟩ =>
    ⟨.v4 (.ofNat 32 (ip.octets.foldl (fun value octet => value * 256 + octet.toNat) 0)),
      port.toNat⟩
  | .v6 ⟨ip, port⟩ =>
    ⟨.v6 (.ofNat 128 (ip.segments.foldl (fun value group => value * 65536 + group.toNat) 0)),
      port.toNat⟩

def openSocket (socket : TCP.Socket.Server) (config : Config) :
    IO (Except IoError SocketAddress) := do
  match SocketAddress.resolve config.host config.effectivePort with
  | .error _ => return .ok ⟨.unspecified, 0⟩
  | .ok wanted =>
    let opening : IO SocketAddress := do
      socket.bind (toNet wanted)
      socket.listen config.backlog.toNat.toUInt32
      return ofNet (← socket.getSockName)
    return (← opening.toBaseIO).mapError ioError

partial def receive (client : TCP.Socket.Client) (received : Bytes) : IO Bytes := do
  if Framing.wanted received ≤ received.length then return received.take Framing.maxRequest
  match ← (client.recv? Framing.readSize.toUInt64).block with
  | none => return received
  | some more => receive client (received ++ more.toList)

/-- A connection with what its client sent. The records of TLS cannot be read, so a connection
that should begin with a handshake ends there. -/
def connection (config : Config) (client : TCP.Socket.Client) : IO Connection := do
  let peer := (ofNet (← client.getPeerName)).text
  if config.https then
    return { peer, secure := true, handshake := some (.handshake "not supported") }
  match ← (receive client []).toBaseIO with
  | .ok received => return { peer, deliveries := [.data received] }
  | .error error => return { peer, deliveries := [.failure (ioError error)] }

def handle (config : Config) (client : TCP.Socket.Client) : IO Unit := do
  let connection ← connection config client
  let router := Demo.router .standard config.staticDir (← now)
  let input := (Framing.readRequest connection.deliveries).result.toOption.getD []
  let files ← readFiles (router.neededFile? input).toList
  let trail := connection.handle router files
  for line in trail.events.filterMap Event.line? do
    report line
  if let some answer := trail.sent then
    (client.send ⟨answer.toArray⟩).block
    client.shutdown.block

partial def work (config : Config) (queue : Std.CloseableChannel TCP.Socket.Client) : IO Unit := do
  if let some client ← queue.sync.recv then
    if let .error error ← (handle config client).toBaseIO then
      report (Log.error (toString error))
    work config queue

partial def accept (socket : TCP.Socket.Server) (queue : Std.CloseableChannel TCP.Socket.Client) :
    IO Unit := do
  match ← socket.accept.block.toBaseIO with
  | .ok client => discard <| (queue.sync.send client).toBaseIO
  | .error error => report (Listener.failureLine (ioError error))
  accept socket queue

def serve (config : Config) : IO UInt32 := do
  let files ← readFiles (if config.https then [config.cert, config.key] else [])
  let socket ← TCP.Socket.Server.mk
  let opened ← openSocket socket config
  let system : Activity.System := { opens := fun _ => opened, library := .standard, files }
  match CommandLine.start .standard system (← now) config with
  | .error error => print (CommandLine.failed config error)
  | .ok activity =>
    IO.print config.summary
    (← IO.getStdout).flush
    let queue ← Std.CloseableChannel.new
    for _ in [0:config.workers] do
      discard <| IO.asTask (work config queue) Task.Priority.dedicated
    for call in activity.starts do
      report (Activity.startedLine activity.server call)
    accept socket queue
    return 0

end HttpServer.Main

def main (arguments : List String) : IO UInt32 := do
  let processors := (← Std.Async.System.getCPUInfo).size
  let environment ← HttpServer.Main.environment
  match HttpServer.CommandLine.configure processors environment arguments with
  | .error outcome => HttpServer.Main.print outcome
  | .ok config => HttpServer.Main.serve config
