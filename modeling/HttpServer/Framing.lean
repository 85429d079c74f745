import HttpServer.Failure
import HttpServer.Request

/-!
How many bytes of a connection make up one request: those up to the empty line behind the headers
and as many more as `Content-Length` declares, at most `maxRequest` in all. `readRequest` reads
from a list of deliveries until it has them or the deliveries end.
-/

namespace HttpServer.Framing

def maxRequest : Nat := 1048576

def readSize : Nat := 8192

def headEndFrom (offset : Nat) : Bytes → Option Nat
  | [] => none
  | 0x0D :: 0x0A :: 0x0D :: 0x0A :: _ => some (offset + 4)
  | 0x0A :: 0x0A :: _ => some (offset + 2)
  | _ :: rest => headEndFrom (offset + 1) rest

def headEnd? (input : Bytes) : Option Nat :=
  headEndFrom 0 input

def isContentLength (name : List Char) : Bool :=
  (Text.trim name).map Char.toLower = "content-length".toList

/-- The length of the body that the first `Content-Length` line of a head declares, in any ASCII
case; 0 if there is none or its value is no number. -/
def declaredLength (head : Bytes) : Nat :=
  let named := ((linesOf (Utf8.decode head)).drop 1).filterMap (cut ':')
  match named.find? fun field => isContentLength field.1 with
  | some (_, value) => (readNatural maxWord (Text.trim value)).toOption.getD 0
  | none => 0

def saturatingAdd (left right : Nat) : Nat :=
  min (left + right) maxWord

/-- The length of the request that begins with the received bytes, as far as they tell. -/
def wanted (received : Bytes) : Nat :=
  match headEnd? received with
  | some headEnd =>
    min (saturatingAdd headEnd (declaredLength (received.take headEnd))) maxRequest
  | none => maxRequest

inductive Delivery
  | data (bytes : Bytes)
  | interrupted
  | failure (error : IoError)
deriving DecidableEq, Repr

def chunksFrom (size : Nat) (done : List Bytes) (chunk : Bytes) (room : Nat) :
    Bytes → List Bytes
  | [] => (chunk.reverse :: done).reverse
  | byte :: rest =>
    match room with
    | 0 => chunksFrom size (chunk.reverse :: done) [byte] (size - 1) rest
    | room + 1 => chunksFrom size done (byte :: chunk) room rest

def chunks (size : Nat) (input : Bytes) : List Bytes :=
  chunksFrom size [] [] size input

def Delivery.portions : Delivery → List Delivery
  | .data bytes => (chunks readSize bytes).map .data
  | delivery => [delivery]

def Delivery.size : Delivery → Nat
  | .data bytes => bytes.length
  | _ => 0

/-- How reading a request ended: its bytes or an error, the number of reads it took, and the
deliveries that were left. -/
structure Reading where
  result : Except IoError Bytes
  reads : Nat
  left : List Delivery

def readFrom (received : Bytes) (reads : Nat) : List Delivery → Reading
  | [] =>
    if wanted received ≤ received.length then ⟨.ok (received.take maxRequest), reads, []⟩
    else ⟨.ok (received.take maxRequest), reads + 1, []⟩
  | delivery :: rest =>
    if wanted received ≤ received.length then
      ⟨.ok (received.take maxRequest), reads, delivery :: rest⟩
    else
      match delivery with
      | .interrupted => readFrom received (reads + 1) rest
      | .failure error => ⟨.error error, reads + 1, rest⟩
      | .data [] => ⟨.ok (received.take maxRequest), reads + 1, rest⟩
      | .data bytes => readFrom (received ++ bytes) (reads + 1) rest

def readRequest (deliveries : List Delivery) : Reading :=
  readFrom [] 0 (deliveries.flatMap Delivery.portions)

end HttpServer.Framing
