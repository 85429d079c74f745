import HttpServer.Failure
import HttpServer.Text.Decimal
import HttpServer.Text.Quoted

/-!
IP addresses: reading them from text, writing them, and the address that a host stands for.
-/

namespace HttpServer

inductive Ip
  | v4 (bits : BitVec 32)
  | v6 (bits : BitVec 128)
deriving DecidableEq, Repr

namespace Ip

def valueOf (base : Nat) (digits : List Nat) : Nat :=
  digits.foldl (fun value digit => value * base + digit) 0

def readOctet? (text : List Char) : Option (Nat × List Char) :=
  let (digits, rest) := text.span fun c => (digitValue? c).isSome
  let value := valueOf 10 (digits.filterMap digitValue?)
  if digits.isEmpty || 3 < digits.length || 255 < value ||
      (1 < digits.length && digits.head? = some '0') then none
  else some (value, rest)

def readOctets? (value : Nat) (first : Bool) : Nat → List Char → Option (Nat × List Char)
  | 0, text => some (value, text)
  | left + 1, text => do
    let text ← if first then some text else
      match text with
      | '.' :: rest => some rest
      | _ => none
    let (octet, rest) ← readOctet? text
    readOctets? (value * 256 + octet) false left rest

def readV4? (text : List Char) : Option (Nat × List Char) :=
  readOctets? 0 true 4 text

def hexValue? (c : Char) : Option Nat :=
  if '0' ≤ c && c ≤ '9' then some (c.toNat - 0x30)
  else if 'a' ≤ c && c ≤ 'f' then some (c.toNat - 0x61 + 10)
  else if 'A' ≤ c && c ≤ 'F' then some (c.toNat - 0x41 + 10)
  else none

def readGroup? (text : List Char) : Option (Nat × List Char) :=
  let (digits, rest) := text.span fun c => (hexValue? c).isSome
  if digits.isEmpty || 4 < digits.length then none
  else some (valueOf 16 (digits.filterMap hexValue?), rest)

/-- Reads up to `slots` groups with colons between them. An address of version 4 may end them, in
place of two; the flag says whether it did. -/
def readGroups (first : Bool) : Nat → List Char → List Nat × Bool × List Char
  | 0, text => ([], false, text)
  | slots + 1, text =>
    let body := if first then some text else
      match text with
      | ':' :: rest => some rest
      | _ => none
    match (if 1 ≤ slots then body.bind readV4? else none) with
    | some (value, rest) => ([value / 65536, value % 65536], true, rest)
    | none =>
      match body.bind readGroup? with
      | some (group, rest) =>
        let (groups, embedded, rest) := readGroups false slots rest
        (group :: groups, embedded, rest)
      | none => ([], false, text)

def readV6? (text : List Char) : Option (Nat × List Char) :=
  let (head, embedded, rest) := readGroups true 8 text
  if head.length = 8 then some (valueOf 65536 head, rest)
  else if embedded then none
  else
    match rest with
    | ':' :: ':' :: rest =>
      let (tail, _, rest) := readGroups true (7 - head.length) rest
      let zeros := List.replicate (8 - head.length - tail.length) 0
      some (valueOf 65536 (head ++ zeros ++ tail), rest)
    | _ => none

def ofText? (text : String) : Option Ip :=
  match readV4? text.toList with
  | some (value, rest) => if rest.isEmpty then some (.v4 (.ofNat 32 value)) else none
  | none =>
    match readV6? text.toList with
    | some (value, []) => some (.v6 (.ofNat 128 value))
    | _ => none

def digitsIn (base : Nat) : Nat → Nat → List Nat
  | 0, _ => []
  | count + 1, value => digitsIn base count (value / base) ++ [value % base]

def textV4 (value : Nat) : String :=
  ".".intercalate ((digitsIn 256 4 value).map decimal)

def textGroups (groups : List Nat) : String :=
  ":".intercalate (groups.map fun group => String.ofList (Text.hexDigitsOnto [] group))

structure ZeroRun where
  start : Nat := 0
  length : Nat := 0

/-- The first of the longest runs of zeros. -/
def longestZeros (index : Nat) (current longest : ZeroRun) : List Nat → ZeroRun
  | [] => longest
  | group :: rest =>
    if group = 0 then
      let current := if current.length = 0 then ⟨index, 1⟩ else ⟨current.start, current.length + 1⟩
      longestZeros (index + 1) current
        (if longest.length < current.length then current else longest) rest
    else longestZeros (index + 1) {} longest rest

def textV6 (value : Nat) : String :=
  if value / Nat.pow 2 32 = 0xFFFF then "::ffff:" ++ textV4 (value % Nat.pow 2 32)
  else
    let groups := digitsIn 65536 8 value
    let zeros := longestZeros 0 {} {} groups
    if 1 < zeros.length then
      textGroups (groups.take zeros.start) ++ "::" ++
        textGroups (groups.drop (zeros.start + zeros.length))
    else textGroups groups

def text : Ip → String
  | .v4 bits => textV4 bits.toNat
  | .v6 bits => textV6 bits.toNat

def isV6 : Ip → Bool
  | .v4 _ => false
  | .v6 _ => true

def unspecified : Ip := .v4 0
def localhost : Ip := .v4 0x7F000001

end Ip

structure SocketAddress where
  ip : Ip
  port : Nat
deriving DecidableEq, Repr

namespace SocketAddress

def text (address : SocketAddress) : String :=
  let ip := if address.ip.isV6 then "[" ++ address.ip.text ++ "]" else address.ip.text
  ip ++ ":" ++ decimal address.port

/-- The address of a host. Only `localhost` is known by name; no host at all means every
interface. -/
def resolve (host : String) (port : Nat) : Except ServerError SocketAddress :=
  if host = "" then .ok ⟨.unspecified, port⟩
  else if host = "localhost" then .ok ⟨.localhost, port⟩
  else
    match Ip.ofText? host with
    | some ip => .ok ⟨ip, port⟩
    | none => .error (.invalidAddress host)

end SocketAddress

end HttpServer
