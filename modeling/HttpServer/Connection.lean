import HttpServer.Framing
import HttpServer.Router

/-!
One connection from its acceptance to its end. What the operating system makes of each operation
is given beforehand; the first operation that fails ends the connection with one log line, and so
does a panic, without one.
-/

namespace HttpServer

inductive Acceptance
  | taken (count : Nat)
  | interrupted
  | failure (error : IoError)
deriving DecidableEq, Repr

/-- Who is at the other end, and what becomes of each operation; `none` is success. Only a secure
connection has a handshake that could fail. -/
structure Connection where
  peer : String
  secure : Bool := false
  readTimeout : Option IoError := none
  writeTimeout : Option IoError := none
  handshake : Option TlsError := none
  deliveries : List Framing.Delivery := []
  acceptances : List Acceptance := []
  flush : Option IoError := none
  close : Option IoError := none
deriving DecidableEq, Repr

namespace Connection

/-- What a connection did: the bytes that were sent, if it came to that, its events, and the panic
that ended it, if one did. -/
structure Trail where
  sent : Option Bytes := none
  events : List Event := []
  escaped : Option PanicPayload := none
deriving DecidableEq, Repr

def Trail.logged (line : Log.Line) : Trail :=
  { events := [.log line] }

def ioLine (peer : String) (error : IoError) : Log.Line :=
  Log.error ("Connection error with " ++ peer ++ ": " ++ error.message)

def handshakeLine (peer : String) (error : TlsError) : Log.Line :=
  Log.error ("TLS handshake failed with " ++ peer ++ ": " ++ error.message)

def emptyLine (peer : String) : Log.Line :=
  Log.debug ("Connection from " ++ peer ++ " closed without data")

/-! ### Steps -/

inductive Operation
  | limitReads
  | limitWrites
  | shakeHands
  | read
  | answer (input : Bytes)
  | write
  | flush
  | close
deriving DecidableEq, Repr

inductive Fault
  | io (error : IoError)
  | tls (error : TlsError)
  | panic (payload : PanicPayload)
deriving DecidableEq, Repr

def Fault.line? (peer : String) : Fault → Option Log.Line
  | .io error => some (ioLine peer error)
  | .tls error => some (handshakeLine peer error)
  | .panic _ => none

def Fault.payload? : Fault → Option PanicPayload
  | .panic payload => some payload
  | _ => none

structure Step where
  operation : Operation
  failure : Option Fault := none
deriving DecidableEq, Repr

def failureOf (steps : List Step) : Option Fault :=
  steps.findSome? Step.failure

def calls (operation : Operation) (done : Nat) (failure : Option IoError) : List Step :=
  List.replicate done ⟨operation, none⟩ ++
    (failure.map fun error => ⟨operation, some (.io error)⟩).toList

/-- What was done with a connection up to the first failure, what was sent, and what happened
besides the failure. -/
structure Course where
  steps : List Step := []
  sent : Option Bytes := none
  events : List Event := []
deriving DecidableEq, Repr

def Course.after (steps : List Step) (rest : Course) : Course :=
  match failureOf steps with
  | some _ => { steps }
  | none => { rest with steps := steps ++ rest.steps }

def Course.trail (peer : String) (course : Course) : Trail :=
  let failure := failureOf course.steps
  { sent := course.sent
    events := course.events ++ ((failure.bind (Fault.line? peer)).map .log).toList
    escaped := failure.bind Fault.payload? }

/-! ### Writing -/

structure Writing where
  taken : Bytes
  calls : Nat
  failure : Option IoError := none
deriving DecidableEq, Repr

def stalledError : IoError :=
  ⟨"WriteZero", "failed to write whole buffer"⟩

/-- Writes what is left. Interrupted writes are made again; a write that takes nothing fails. -/
def writeFrom (taken left : Bytes) (calls : Nat) : List Acceptance → Writing
  | [] => if left.isEmpty then ⟨taken, calls, none⟩ else ⟨taken ++ left, calls + 1, none⟩
  | acceptance :: rest =>
    if left.isEmpty then ⟨taken, calls, none⟩
    else
      match acceptance with
      | .interrupted => writeFrom taken left (calls + 1) rest
      | .failure error => ⟨taken, calls, some error⟩
      | .taken 0 => ⟨taken, calls, some stalledError⟩
      | .taken count => writeFrom (taken ++ left.take count) (left.drop count) (calls + 1) rest

def writeAll (answer : Bytes) (acceptances : List Acceptance) : Writing :=
  writeFrom [] answer 0 acceptances

/-! ### The course of a connection -/

def send (connection : Connection) (answer : Bytes) (events : List Event) : Course :=
  let writing := writeAll answer connection.acceptances
  let finishing := Course.after (calls .write writing.calls writing.failure) <|
    .after [⟨.flush, connection.flush.map .io⟩] <|
    .after [⟨.close, connection.close.map .io⟩] {}
  { finishing with sent := some writing.taken, events }

def respond (router : Router) (files : FileTree) (connection : Connection) (input : Bytes) :
    Course :=
  let reply := router.answer files input
  match reply.bytes with
  | .ok answer => .after [⟨.answer input, none⟩] (connection.send answer reply.events)
  | .error payload =>
    { steps := [⟨.answer input, some (.panic payload)⟩], events := reply.events }

def serve (router : Router) (files : FileTree) (connection : Connection) : Course :=
  let reading := Framing.readRequest connection.deliveries
  match reading.result with
  | .error error => { steps := calls .read (reading.reads - 1) (some error) }
  | .ok [] =>
    { steps := calls .read reading.reads none, events := [.log (emptyLine connection.peer)] }
  | .ok input => .after (calls .read reading.reads none) (connection.respond router files input)

def course (router : Router) (files : FileTree) (connection : Connection) : Course :=
  .after [⟨.limitReads, connection.readTimeout.map .io⟩] <|
  .after [⟨.limitWrites, connection.writeTimeout.map .io⟩] <|
  .after (if connection.secure then [⟨.shakeHands, connection.handshake.map .tls⟩] else []) <|
  connection.serve router files

/-- Handles a connection from its acceptance to its end. A failure is logged and goes no further,
but a panic does. -/
def handle (router : Router) (files : FileTree) (connection : Connection) : Trail :=
  (connection.course router files).trail connection.peer

end Connection

end HttpServer
