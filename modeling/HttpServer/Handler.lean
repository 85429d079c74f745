import HttpServer.Log
import HttpServer.Response

/-!
User code. A handler is a function of the request and the response so far. What it did is a value:
the response it left, the events on the way, and how it ended. A handler may fail or panic;
middleware says whether to go on, and may panic; so may an error handler.
-/

namespace HttpServer

inductive PanicPayload
  | text (message : String)
  | other
  /-- A value of another type that panics with `message` when it is dropped. -/
  | volatile (message : String)
deriving DecidableEq, Repr

/-- Whoever stops a panic puts its payload into words and drops it, and the drop may be another
panic, which goes on. Only text can be shown. -/
def PanicPayload.told : PanicPayload → Except PanicPayload String
  | .text message => .ok message
  | .other => .ok "handler panicked"
  | .volatile message => .error (.text message)

inductive HandlerFault
  | error (message : String)
  | panic (payload : PanicPayload)
deriving DecidableEq, Repr

def HandlerFault.told : HandlerFault → Except PanicPayload String
  | .error message => .ok message
  | .panic payload => payload.told

inductive Event
  | log (line : Log.Line)
  | note (text : String)
deriving DecidableEq, Repr

def Event.line? : Event → Option Log.Line
  | .log line => some line
  | .note _ => none

def Event.note? : Event → Option String
  | .log _ => none
  | .note text => some text

structure Ran (ε α : Type) where
  response : Response
  events : List Event := []
  result : Except ε α
deriving Repr

def Ran.behind {ε α : Type} (before : List Event) (ran : Ran ε α) : Ran ε α :=
  { ran with events := before ++ ran.events }

abbrev Handler := Request → Response → Ran HandlerFault Unit

abbrev Middleware := Request → Response → Ran PanicPayload Bool

abbrev ErrorHandler := String → Request → Response → Ran PanicPayload Unit

namespace Handler

def answering (answer : Request → Response → Response) : Handler :=
  fun request response => { response := answer request response, result := .ok () }

def defaultNotFound : Handler :=
  answering fun request response =>
    (response.setStatus .notFound).setText ("404 Not Found: " ++ request.path)

end Handler

/-- The answer to any fault: it tells the client nothing of it. -/
def Response.setServerError (response : Response) : Response :=
  (response.setStatus .internalServerError).setText "Internal Server Error"

def ErrorHandler.default : ErrorHandler :=
  fun _ _ response => { response := response.setServerError, result := .ok () }

end HttpServer
