import HttpServer.Address
import HttpServer.Log

/-!
The socket that a server listens on: bound to an address, then listening, then accepting
connections until it is stopped. What the operating system answers to a call is an argument; a
call that fails changes nothing.
-/

namespace HttpServer

structure Listener where
  socket : Option SocketAddress := none
  address : Option SocketAddress := none
  running : Bool := false
deriving DecidableEq, Repr

namespace Listener

def defaultBacklog : Int := 128

/-- Binds a new socket. `opened` is the address that the system binds for the one asked for. -/
def bind (listener : Listener) (host : String) (port : Nat)
    (opened : SocketAddress → Except IoError SocketAddress) :
    Listener × Except ServerError SocketAddress :=
  match SocketAddress.resolve host port with
  | .error error => (listener, .error error)
  | .ok wanted =>
    match opened wanted with
    | .error source => (listener, .error (.bind wanted.text source))
    | .ok address =>
      ({ listener with socket := some address, address := some address }, .ok address)

def listen (listener : Listener) (failure : Option IoError) : Listener × Except ServerError Unit :=
  match listener.socket, failure with
  | none, _ => (listener, .error .notBound)
  | some _, some source => (listener, .error (.listen source))
  | some _, none => ({ listener with running := true }, .ok ())

def stop (listener : Listener) : Listener :=
  { listener with socket := none, running := false }

def failureLine (error : IoError) : Log.Line :=
  Log.warning ("Accept failed: " ++ error.message)

/-- What becomes of the connections that arrive until the listener is stopped: those that are
handed on, and the log. A listener that does not run takes none. -/
def accept {α : Type} (listener : Listener) (arrivals : List (Except IoError α)) :
    List α × List Log.Line :=
  if listener.socket.isSome && listener.running then
    (arrivals.filterMap Except.toOption,
      arrivals.filterMap fun arrival =>
        match arrival with
        | .ok _ => none
        | .error error => some (failureLine error))
  else ([], [])

end Listener

end HttpServer
