import HttpServer.Config
import HttpServer.Connection
import HttpServer.Listener
import HttpServer.Pool

/-!
A server: its tables, its options, its pool of workers, and whether a run of it is under way.
-/

namespace HttpServer

structure ServerOptions where
  workers : Nat
  timeout : Option Nat := some 30000
  maxConnections : Nat := 100
  backlog : Int := Listener.defaultBacklog
  threaded : Bool := true
deriving DecidableEq, Repr

namespace ServerOptions

def timeoutOf (seconds : Nat) : Option Nat :=
  if seconds = 0 then none else some (seconds * 1000)

def ofConfig (config : Config) : ServerOptions where
  workers := config.workers
  timeout := timeoutOf config.timeoutSecs
  maxConnections := config.maxConnections
  backlog := config.backlog

end ServerOptions

/-- What becomes of an accepted connection: a task for a worker, or for whoever accepted it. -/
structure ConnectionTask where
  router : Router
  connection : Connection

def ConnectionTask.run (task : ConnectionTask) (files : FileTree) : Connection.Trail :=
  task.connection.handle task.router files

structure Server where
  router : Router := {}
  options : ServerOptions
  pool : Pool ConnectionTask
  running : Bool := false
  published : Option Nat := none

namespace Server

def ofOptions (options : ServerOptions) : Server :=
  { options, pool := .ofSize options.workers }

def answer (server : Server) (files : FileTree) (input : Bytes) : Router.Reply :=
  server.router.answer files input

def sizeLine (size : Nat) : Log.Line :=
  Log.info ("Thread pool size set to " ++ decimal size)

def setPoolSize (server : Server) (requested : Nat) : Server × Log.Line :=
  let pool := server.pool.resize requested
  ({ server with pool }, sizeLine pool.size)

def setTimeout (server : Server) (seconds : Nat) : Server :=
  { server with options := { server.options with timeout := ServerOptions.timeoutOf seconds } }

def maxConnectionsLine (maximum : Nat) : Log.Line :=
  Log.info ("Max connections hint set to " ++ decimal maximum)

def setMaxConnections (server : Server) (maximum : Nat) : Server × Log.Line :=
  ({ server with options := { server.options with maxConnections := maximum } },
    maxConnectionsLine maximum)

end Server

end HttpServer
