import HttpServer.Json.Basic
import HttpServer.Program
import HttpServer.Server

/-!
The application that the program serves: an index page, a small JSON interface, a health check,
and the files of a directory. Every answer allows requests from any origin.
-/

namespace HttpServer.Demo

def indexPage : String :=
  "<!DOCTYPE html>
<html>
<head>
    <title>Hilos HTTP Server</title>
    <style>
        body \x7b font-family: Arial, sans-serif; margin: 40px; \x7d
        .endpoint \x7b background: #f5f5f5; padding: 10px; margin: 10px 0; border-radius: 5px; \x7d
    </style>
</head>
<body>
    <h1>Hilos HTTP Server</h1>
    <h2>Available Endpoints:</h2>
    <div class=\"endpoint\"><strong>GET /</strong> - This page</div>
    <div class=\"endpoint\"><strong>GET /api/status</strong> - Server status</div>
    <div class=\"endpoint\"><strong>GET /api/hello?name=...</strong> - Hello message</div>
    <div class=\"endpoint\"><strong>POST /api/echo</strong> - Echo request body</div>
    <div class=\"endpoint\"><strong>GET /health</strong> - Health check</div>
</body>
</html>
"

section

variable (json : Json.Library)

def statusText (now : Nat) : String :=
  json.render (Json.ofMembers [
    ("status", .string "running"),
    ("platform", .string "native"),
    ("version", .string Program.version),
    ("timestamp", .ofNat now)])

def helloText (name : String) : String :=
  json.render (Json.ofMembers [("message", .string ("Hello, " ++ name ++ "!"))])

def echoText (echoed : Json) : String :=
  json.render (Json.ofMembers [("echo", echoed)])

def notFoundText (path : String) : String :=
  json.render (Json.ofMembers [("error", .string "Not Found"), ("path", .string path)])

def visitor (request : Request) : String :=
  match request.parameter? "name" with
  | some name => if name.isEmpty then "World" else name
  | none => "World"

def sentJson (request : Request) : Bool :=
  match request.contentType? with
  | some contentType => "application/json".toList.isPrefixOf contentType.toList
  | none => false

/-- Answers with the body of the request: as the document that it is if it was sent as one, and as
a string otherwise. -/
def echo : Handler := fun request response =>
  if sentJson request then
    match json.parse request.body with
    | .ok document => { response := response.setJson (echoText json document), result := .ok () }
    | .error message => { response, result := .error (.error message) }
  else
    { response := response.setJson (echoText json (.string request.bodyText)), result := .ok () }

def notFound : Handler :=
  .answering fun request response =>
    (response.setStatus .notFound).setJson (notFoundText json request.path)

def allowAll : Middleware := fun _ response =>
  { response := response.enableCors "*", result := .ok true }

def logRequest : Middleware := fun request response =>
  { response
    events := [.log (Log.info (request.method.name ++ " " ++ request.path))]
    result := .ok true }

def router (staticDirectory : Option String) (now : Nat) : Router :=
  let router : Router := { notFound := notFound json }
  let router := (router.addMiddleware allowAll).addMiddleware logRequest
  let router := router.addRoute .get "/" (.answering fun _ response => response.setHtml indexPage)
  let router := router.addRoute .get "/api/status"
    (.answering fun _ response => response.setJson (statusText json now))
  let router := router.addRoute .get "/api/hello"
    (.answering fun request response => response.setJson (helloText json (visitor request)))
  let router := router.addRoute .post "/api/echo" (echo json)
  let router := router.addRoute .get "/health"
    (.answering fun _ response => response.setText "OK")
  match staticDirectory with
  | some directory => router.addStatic "/static" directory
  | none => router

def server (config : Config) (now : Nat) : Server :=
  { Server.ofOptions (.ofConfig config) with router := router json config.staticDir now }

end

end HttpServer.Demo
