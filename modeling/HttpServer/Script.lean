import HttpServer.Json.Parser
import HttpServer.Report
import HttpServer.Router

/-!
User code written as a list of actions on the response, run in order. A list may stop early, fail
or panic; as middleware or error handler, which cannot fail, it panics in place of failing.
-/

namespace HttpServer

inductive Action
  | status (status : Status)
  | header (name value : String)
  | text (text : String)
  | html (text : String)
  | json (text : String)
  | body (bytes : Bytes)
  | append (bytes : Bytes)
  | updateLength
  | cors (origin : String)
  | file (path : String)
  | reset (status : Status)
  | echoBody
  | echoRequest
  | echoPath
  | echoQuery (name fallback : String)
  | echoHeader (name fallback : String)
  | echoFault (opening : String)
  | note (text : String)
  | halt
  | haltIfPath (path : String)
  | haltIfInvalid
  | haltUnlessHeader (name : String)
  | fail (message : String)
  | requireJson (text : String)
  | panic (payload : PanicPayload)
deriving DecidableEq, Repr

namespace Script

inductive Ending
  | finished
  | halted
  | failed (message : String)
  | panicked (payload : PanicPayload)
deriving DecidableEq, Repr

structure Setting where
  files : FileTree
  request : Request
  fault : Option String

def change (setting : Setting) (response : Response) : Action → Response
  | .status status => response.setStatus status
  | .header name value => response.setHeader name value
  | .text text => response.setText text
  | .html text => response.setHtml text
  | .json text => response.setJson text
  | .body bytes => response.setBody bytes
  | .append bytes => response.append bytes
  | .updateLength => response.updateContentLength
  | .cors origin => response.enableCors origin
  | .file path => response.setFile setting.files path
  | .reset status => Response.ofStatus status
  | .echoBody => response.setBody setting.request.body
  | .echoRequest => response.setJson (Report.request setting.request).render
  | .echoPath => response.setText setting.request.path
  | .echoQuery name fallback =>
    response.setText ((setting.request.parameter? name).getD fallback)
  | .echoHeader name fallback =>
    response.setText ((setting.request.header? name).getD fallback)
  | .echoFault opening => response.setText (opening ++ setting.fault.getD "-")
  | _ => response

def ending? (setting : Setting) : Action → Option Ending
  | .halt => some .halted
  | .haltIfPath path => if setting.request.path = path then some .halted else none
  | .haltIfInvalid => if setting.request.valid then none else some .halted
  | .haltUnlessHeader name =>
    if (setting.request.header? name).isSome then none else some .halted
  | .fail message => some (.failed message)
  | .requireJson text =>
    match Json.parse (Utf8.bytes text) with
    | .ok _ => none
    | .error message => some (.failed message)
  | .panic payload => some (.panicked payload)
  | _ => none

def events : Action → List Event
  | .note text => [.note text]
  | _ => []

def runFrom (setting : Setting) (done : List Event) (response : Response) :
    List Action → Response × List Event × Ending
  | [] => (response, done, .finished)
  | action :: rest =>
    match ending? setting action with
    | some ending => (response, done, ending)
    | none => runFrom setting (done ++ events action) (change setting response action) rest

def handler (files : FileTree) (actions : List Action) : Handler := fun request response =>
  let (response, events, ending) := runFrom ⟨files, request, none⟩ [] response actions
  match ending with
  | .failed message => { response, events, result := .error (.error message) }
  | .panicked payload => { response, events, result := .error (.panic payload) }
  | _ => { response, events, result := .ok () }

def middleware (files : FileTree) (actions : List Action) : Middleware := fun request response =>
  let (response, events, ending) := runFrom ⟨files, request, none⟩ [] response actions
  match ending with
  | .finished => { response, events, result := .ok true }
  | .halted => { response, events, result := .ok false }
  | .failed message => { response, events, result := .error (.text message) }
  | .panicked payload => { response, events, result := .error payload }

def errorHandler (files : FileTree) (actions : List Action) : ErrorHandler :=
  fun message request response =>
    let (response, events, ending) := runFrom ⟨files, request, some message⟩ [] response actions
    match ending with
    | .failed message => { response, events, result := .error (.text message) }
    | .panicked payload => { response, events, result := .error payload }
    | _ => { response, events, result := .ok () }

end Script

end HttpServer
