import HttpServer.Fields
import HttpServer.Method
import HttpServer.Text.Blank
import HttpServer.Text.Decimal
import HttpServer.Text.Percent
import HttpServer.Text.Pieces
import HttpServer.Text.Quoted

/-!
Requests and how they are read from bytes. A request opens with a line of three words, then come
header lines up to an empty one, then the body. A line ends in LF or CRLF. `Request.parse` says
why bytes are refused; `Request.read` gives `Request.invalid` for them.
-/

namespace HttpServer

structure Request where
  method : Method := .unknown
  path : String := ""
  version : String := ""
  headers : Fields := {}
  query : Fields := {}
  body : Bytes := []
  valid : Bool := false
deriving DecidableEq, Repr

namespace Request

inductive Fault
  | empty
  | line (text : String)
  | version (text : String)
deriving DecidableEq, Repr

def Fault.message : Fault → String
  | .empty => "Empty request"
  | .line text => "Invalid request line: " ++ Text.quoted text
  | .version text => "Invalid HTTP version: " ++ text

def invalid : Request := {}

def lineFeed : UInt8 := 0x0A
def carriageReturn : UInt8 := 0x0D

def lineText (line : Bytes) : List Char :=
  Utf8.decode (dropLastIf carriageReturn line)

/-- One `name=value` piece of a query. The equals sign may be missing; an empty piece says
nothing. -/
def addParameter (parameters : Fields) (piece : List Char) : Fields :=
  if piece.isEmpty then parameters
  else
    let (name, value) := (cut '=' piece).getD (piece, [])
    parameters.set (Percent.decode (String.ofList name)) (Percent.decode (String.ofList value))

def parseQuery (query : List Char) : Fields :=
  (pieces '&' query).foldl addParameter {}

def parseTarget (target : List Char) : String × Fields :=
  match cut '?' target with
  | some (path, query) => (Percent.decode (String.ofList path), parseQuery query)
  | none => (Percent.decode (String.ofList target), {})

def parseLine (line : List Char) : Except Fault Request :=
  match Text.words line with
  | [method, target, version] =>
    if "HTTP/".toList.isPrefixOf version then
      let (path, query) := parseTarget target
      .ok {
        method := Method.ofWord (String.ofList method)
        path
        query
        version := String.ofList version
        valid := true }
    else .error (.version (String.ofList version))
  | _ => .error (.line (String.ofList line))

def addHeader (headers : Fields) (line : List Char) : Fields :=
  match cut ':' line with
  | some (name, value) =>
    headers.set (String.ofList (Text.trim name)) (String.ofList (Text.trim value))
  | none => headers

def readHeaders (headers : Fields) (line : Bytes) : Bytes → Fields × Bytes
  | [] => (addHeader headers (lineText line.reverse), [])
  | byte :: rest =>
    if byte = lineFeed then
      match lineText line.reverse with
      | [] => (headers, rest)
      | text => readHeaders (addHeader headers text) [] rest
    else readHeaders headers (byte :: line) rest

def parse (input : Bytes) : Except Fault Request :=
  if input.isEmpty then .error .empty
  else do
    let (first, rest) := input.span (· ≠ lineFeed)
    let request ← parseLine (lineText first)
    let (headers, body) := readHeaders {} [] (rest.drop 1)
    return { request with headers, body := dropLastIf lineFeed body }

def read (input : Bytes) : Request :=
  (parse input).toOption.getD invalid

def header? (request : Request) (name : String) : Option String :=
  request.headers.get? name

def parameter? (request : Request) (name : String) : Option String :=
  request.query.get? name

def contentLength (request : Request) : Nat :=
  match request.header? "Content-Length" with
  | some value => (readNatural maxWord value.toList).toOption.getD 0
  | none => 0

def contentType? (request : Request) : Option String :=
  request.header? "Content-Type"

def bodyText (request : Request) : String :=
  Utf8.lossy request.body

end Request

end HttpServer
