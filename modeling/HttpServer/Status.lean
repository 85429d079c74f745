import HttpServer.Text.Pieces
import HttpServer.Text.Decimal

/-!
Response status codes, and the status line that opens a response.
-/

namespace HttpServer

inductive Status
  | ok
  | created
  | noContent
  | badRequest
  | unauthorized
  | forbidden
  | notFound
  | methodNotAllowed
  | internalServerError
  | notImplemented
  | serviceUnavailable
deriving DecidableEq, Repr, Inhabited

namespace Status

def all : List Status :=
  [.ok, .created, .noContent, .badRequest, .unauthorized, .forbidden, .notFound,
    .methodNotAllowed, .internalServerError, .notImplemented, .serviceUnavailable]

def code : Status → Nat
  | .ok => 200
  | .created => 201
  | .noContent => 204
  | .badRequest => 400
  | .unauthorized => 401
  | .forbidden => 403
  | .notFound => 404
  | .methodNotAllowed => 405
  | .internalServerError => 500
  | .notImplemented => 501
  | .serviceUnavailable => 503

def ofCode? (code : Nat) : Option Status :=
  all.find? fun status => status.code = code

def reason : Status → String
  | .ok => "OK"
  | .created => "Created"
  | .noContent => "No Content"
  | .badRequest => "Bad Request"
  | .unauthorized => "Unauthorized"
  | .forbidden => "Forbidden"
  | .notFound => "Not Found"
  | .methodNotAllowed => "Method Not Allowed"
  | .internalServerError => "Internal Server Error"
  | .notImplemented => "Not Implemented"
  | .serviceUnavailable => "Service Unavailable"

def isSuccess (status : Status) : Bool :=
  200 ≤ status.code && status.code < 300

def isError (status : Status) : Bool :=
  400 ≤ status.code

def isClientError (status : Status) : Bool :=
  400 ≤ status.code && status.code < 500

def isServerError (status : Status) : Bool :=
  500 ≤ status.code && status.code < 600

def text (status : Status) : String :=
  decimal status.code ++ " " ++ status.reason

end Status

structure StatusLine where
  version : String
  status : Status
  reason : String
deriving DecidableEq, Repr

namespace StatusLine

def isLineEnd (c : Char) : Bool :=
  c = '\r' || c = '\n'

def trimEnd (line : List Char) : List Char :=
  (line.reverse.dropWhile isLineEnd).reverse

/-- Reads `VERSION CODE REASON`. The reason may be empty or missing; the line may end in any
number of carriage returns and line feeds. -/
def read? (line : String) : Option StatusLine := do
  let (version, rest) ← cut ' ' (trimEnd line.toList)
  let (codeDigits, reason) := (cut ' ' rest).getD (rest, [])
  let code ← (readNatural 65535 codeDigits).toOption
  if "HTTP/".toList.isPrefixOf version then
    let status ← Status.ofCode? code
    return ⟨String.ofList version, status, String.ofList reason⟩
  else none

end StatusLine

end HttpServer
