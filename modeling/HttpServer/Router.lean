import HttpServer.Handler
import HttpServer.RoutePattern

/-!
Routing. A request passes the middleware in order of registration and then reaches exactly one
final step: a static file if a mapped prefix begins its path, else the first route that serves it,
else the not-found handler. Which step that is depends on the request and the tables alone. A
fault on the way goes to the error handler, and a panic there to the plain server error.
-/

namespace HttpServer

structure Route where
  method : Method
  pattern : RoutePattern
  handler : Handler

def Route.description (route : Route) : String :=
  "Route \x7b method: " ++ route.method.name ++ ", pattern: " ++
    Text.quoted route.pattern.text ++ " \x7d"

/-- URL prefixes and the directories they stand for, in ascending order of the prefixes. -/
structure StaticTable where
  mappings : List (String × String) := []
deriving DecidableEq, Repr

namespace StaticTable

def setMapping (urlPrefix directory : String) : List (String × String) → List (String × String)
  | [] => [(urlPrefix, directory)]
  | mapping :: rest =>
    if urlPrefix = mapping.1 then (urlPrefix, directory) :: rest
    else if urlPrefix < mapping.1 then (urlPrefix, directory) :: mapping :: rest
    else mapping :: setMapping urlPrefix directory rest

def set (table : StaticTable) (urlPrefix directory : String) : StaticTable :=
  ⟨setMapping urlPrefix directory table.mappings⟩

def find? (table : StaticTable) (path : String) : Option (String × String) :=
  table.mappings.find? fun mapping => mapping.1.toList.isPrefixOf path.toList

end StaticTable

inductive StaticTarget
  | file (path : String)
  | refused
deriving DecidableEq, Repr

def isSeparator (c : Char) : Bool :=
  c = '/' || c = '\\'

def climbs (relative : List Char) : Bool :=
  (pieces '/' (relative.map fun c => if isSeparator c then '/' else c)).contains ['.', '.']

def StaticTarget.of (mapping : String × String) (path : String) : StaticTarget :=
  let relative := (path.toList.drop mapping.1.length).dropWhile (· = '/')
  if climbs relative then .refused
  else .file (FilePath.join mapping.2 (String.ofList relative))

def StaticTarget.serve (target : StaticTarget) (files : FileTree) (response : Response) :
    Response :=
  match target with
  | .file path => response.setFile files path
  | .refused => response.setFileNotFound

structure Router where
  routes : List Route := []
  middleware : List Middleware := []
  statics : StaticTable := {}
  notFound : Handler := Handler.defaultNotFound
  errorHandler : ErrorHandler := ErrorHandler.default

namespace Router

def addRoute (router : Router) (method : Method) (pattern : String) (handler : Handler) : Router :=
  { router with routes := router.routes ++ [⟨method, ⟨pattern⟩, handler⟩] }

def addMiddleware (router : Router) (middleware : Middleware) : Router :=
  { router with middleware := router.middleware ++ [middleware] }

def addStatic (router : Router) (urlPrefix directory : String) : Router :=
  { router with statics := router.statics.set urlPrefix directory }

/-- A route serves its own method. An `OPTIONS` route also serves every method that has a route
with the same pattern text. -/
def serves (routes : List Route) (route : Route) (request : Request) : Bool :=
  route.pattern.fits request.path &&
    (route.method = request.method ||
      (route.method = .options &&
        routes.any fun other => other.method = request.method && other.pattern = route.pattern))

def findRoute? (router : Router) (request : Request) : Option Route :=
  router.routes.find? fun route => serves router.routes route request

inductive FinalStep
  | static (target : StaticTarget)
  | route (route : Route)
  | notFound

def finalStep (router : Router) (request : Request) : FinalStep :=
  match router.statics.find? request.path with
  | some mapping => .static (StaticTarget.of mapping request.path)
  | none =>
    match router.findRoute? request with
    | some route => .route route
    | none => .notFound

/-- The file that answering the bytes of a request may open. -/
def neededFile? (router : Router) (input : Bytes) : Option String :=
  match router.finalStep (Request.read input) with
  | .static (.file path) => some path
  | _ => none

def runFinal (router : Router) (files : FileTree) : Handler := fun request response =>
  match router.finalStep request with
  | .static target => { response := target.serve files response, result := .ok () }
  | .route route => route.handler request response
  | .notFound => router.notFound request response

def runThrough (last : Handler) : List Middleware → Handler
  | [], request, response => last request response
  | middleware :: rest, request, response =>
    let ran := middleware request response
    match ran.result with
    | .ok true => (runThrough last rest request ran.response).behind ran.events
    | .ok false => { response := ran.response, events := ran.events, result := .ok () }
    | .error payload =>
      { response := ran.response, events := ran.events, result := .error (.panic payload) }

def dispatch (router : Router) (files : FileTree) : Handler :=
  runThrough (router.runFinal files) router.middleware

def faultLine (request : Request) (message : String) : Log.Line :=
  Log.error ("Error processing " ++ request.method.name ++ " " ++ request.path ++ ": " ++ message)

def recover (router : Router) (message : String) (request : Request) (response : Response) :
    Ran PanicPayload Unit :=
  let ran := router.errorHandler message request response
  match ran.result with
  | .ok () => ran
  | .error payload =>
    match payload.told with
    | .ok nested =>
      { response := ran.response.setServerError
        events := ran.events ++ [.log (Log.error ("Error handler failed: " ++ nested))]
        result := .ok () }
    | .error next => { ran with result := .error next }

/-- Processes a request on a response. A fault goes no further, but a panic whose payload cannot
be dropped in peace does. -/
def process (router : Router) (files : FileTree) (request : Request) (response : Response) :
    Ran PanicPayload Unit :=
  let ran := router.dispatch files request response
  match ran.result with
  | .ok () => { response := ran.response, events := ran.events, result := .ok () }
  | .error fault =>
    match fault.told with
    | .ok message =>
      (router.recover message request ran.response).behind
        (ran.events ++ [.log (faultLine request message)])
    | .error next => { response := ran.response, events := ran.events, result := .error next }

def summaryLine (request : Request) (response : Response) : Log.Line :=
  Log.debug (request.method.name ++ " " ++ request.path ++ " -> " ++ response.status.text)

structure Reply where
  bytes : Except PanicPayload Bytes
  events : List Event
deriving Repr

def answer (router : Router) (files : FileTree) (input : Bytes) : Reply :=
  let (request, faults) := match Request.parse input with
    | .ok request => (request, [])
    | .error fault =>
      (Request.invalid, [Event.log (Log.error ("Failed to parse request: " ++ fault.message))])
  let ran := router.process files request (Response.forRequest request)
  match ran.result with
  | .ok () =>
    { bytes := .ok ran.response.updateContentLength.bytes
      events := faults ++ ran.events ++ [.log (summaryLine request ran.response)] }
  | .error payload => { bytes := .error payload, events := faults ++ ran.events }

end Router

end HttpServer
