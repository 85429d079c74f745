import HttpServer.Text.Utf8

/-!
JSON documents. A number is kept as an integer if it was written as one that fits 64 bits, and as
a double otherwise. The members of an object stand in ascending order of their keys, each key
once.
-/

namespace HttpServer

namespace Json

inductive Number
  | natural (value : Nat)
  | negative (magnitude : Nat)
  | double (bits : UInt64)
deriving DecidableEq, Repr

end Json

inductive Json
  | null
  | bool (value : Bool)
  | number (value : Json.Number)
  | string (text : String)
  | array (items : List Json)
  | object (members : List (String × Json))

namespace Json

def addMember (key : String) (value : Json) : List (String × Json) → List (String × Json)
  | [] => [(key, value)]
  | member :: rest =>
    if key = member.1 then (key, value) :: rest
    else if key < member.1 then (key, value) :: member :: rest
    else member :: addMember key value rest

def ofMembers (members : List (String × Json)) : Json :=
  .object (members.foldl (fun object member => addMember member.1 member.2 object) [])

def ofNat (value : Nat) : Json :=
  .number (.natural value)

/-- What a program leaves to a library for JSON. Bytes that are no document are refused with a
message. -/
structure Library where
  parse : Bytes → Except String Json
  render : Json → String

end Json

end HttpServer
