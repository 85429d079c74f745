import HttpServer.FileTree
import HttpServer.Mime
import HttpServer.Request
import HttpServer.Status

/-!
Responses: how handlers build them and how they are written as bytes. Setting a body also sets
`Content-Length`; `append` changes the body alone.
-/

namespace HttpServer

structure Response where
  status : Status := .ok
  headers : Fields := {}
  body : Bytes := []
  version : String := "HTTP/1.1"
deriving DecidableEq, Repr

namespace Response

def ofStatus (status : Status) : Response :=
  { status }

def forRequest (request : Request) : Response :=
  if request.valid then { version := request.version } else {}

def setStatus (response : Response) (status : Status) : Response :=
  { response with status }

def setHeader (response : Response) (name value : String) : Response :=
  { response with headers := response.headers.set name value }

def header? (response : Response) (name : String) : Option String :=
  response.headers.get? name

def updateContentLength (response : Response) : Response :=
  response.setHeader "Content-Length" (decimal response.body.length)

def setBody (response : Response) (body : Bytes) : Response :=
  updateContentLength { response with body }

/-- Adds to the body and leaves `Content-Length` as it is. -/
def append (response : Response) (more : Bytes) : Response :=
  { response with body := response.body ++ more }

def setContent (response : Response) (contentType : String) (body : Bytes) : Response :=
  (response.setHeader "Content-Type" contentType).setBody body

def setText (response : Response) (text : String) : Response :=
  response.setContent "text/plain; charset=utf-8" (Utf8.bytes text)

def setHtml (response : Response) (html : String) : Response :=
  response.setContent "text/html; charset=utf-8" (Utf8.bytes html)

def setJson (response : Response) (json : String) : Response :=
  response.setContent "application/json; charset=utf-8" (Utf8.bytes json)

def setFileNotFound (response : Response) : Response :=
  (response.setStatus .notFound).setText "File not found"

def setFile (response : Response) (files : FileTree) (path : String) : Response :=
  match files.read path with
  | .ok content => response.setContent (Mime.ofPath path) content
  | .error _ => response.setFileNotFound

def enableCors (response : Response) (origin : String) : Response :=
  ((response.setHeader "Access-Control-Allow-Origin" origin).setHeader
    "Access-Control-Allow-Methods" "GET, POST, PUT, DELETE, OPTIONS").setHeader
    "Access-Control-Allow-Headers" "Content-Type, Authorization"

def isError (response : Response) : Bool :=
  response.status.isError

def lineEnd : Bytes := [0x0D, 0x0A]

def statusLine (response : Response) : Bytes :=
  Utf8.bytes (response.version ++ " " ++ response.status.text) ++ lineEnd

def headerLine (entry : String × String) : Bytes :=
  Utf8.bytes (entry.1 ++ ": " ++ entry.2) ++ lineEnd

def bytes (response : Response) : Bytes :=
  response.statusLine ++ (response.headers.entries.flatMap headerLine ++
    (lineEnd ++ response.body))

end Response

end HttpServer
