import HttpServer.Json.Printer
import HttpServer.Response

/-!
Bytes, requests and responses as JSON documents. Long bytes are shown by their length, a hash, and
their two ends.
-/

namespace HttpServer.Report

def fnv1a (input : Bytes) : UInt64 :=
  input.foldl (fun hash byte => (hash ^^^ byte.toUInt64) * 0x100000001b3) 0xcbf29ce484222325

def hexText (width value : Nat) : List Char :=
  let digits := Text.hexDigitsOnto [] value
  List.replicate (width - digits.length) '0' ++ digits

def hexBytes (input : Bytes) : String :=
  String.ofList (input.flatMap fun byte => hexText 2 byte.toNat)

def maxShown : Nat := 2048

def endSize : Nat := 64

def bytes (input : Bytes) : Json :=
  if input.length ≤ maxShown then
    match Utf8.text? input with
    | some text => .string text
    | none => Json.ofMembers [("hex", .string (hexBytes input))]
  else
    Json.ofMembers [
      ("len", .ofNat input.length),
      ("fnv1a64", .string (String.ofList (hexText 16 (fnv1a input).toNat))),
      ("head_hex", .string (hexBytes (input.take endSize))),
      ("tail_hex", .string (hexBytes (input.drop (input.length - endSize))))]

def optional (text : Option String) : Json :=
  match text with
  | some text => .string text
  | none => .null

def pairs (entries : List (String × String)) : Json :=
  .array (entries.map fun entry => .array [.string entry.1, .string entry.2])

def request (request : Request) : Json :=
  Json.ofMembers [
    ("method", .string request.method.name),
    ("path", .string request.path),
    ("version", .string request.version),
    ("valid", .bool request.valid),
    ("headers", pairs request.headers.entries),
    ("query", pairs request.query.sorted),
    ("content_length", .string (decimal request.contentLength)),
    ("content_type", optional request.contentType?),
    ("body", bytes request.body),
    ("body_str", if request.body.length ≤ maxShown then .string request.bodyText else .null)]

def response (response : Response) : Json :=
  Json.ofMembers [
    ("status", .ofNat response.status.code),
    ("version", .string response.version),
    ("headers", pairs response.headers.entries),
    ("body", bytes response.body),
    ("is_error", .bool response.isError)]

end HttpServer.Report
