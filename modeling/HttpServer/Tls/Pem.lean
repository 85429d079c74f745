import HttpServer.Text.Quoted
import HttpServer.Tls.Base64

/-!
Files of labelled blocks: base64 text between a `BEGIN` line and the `END` line with the same
label. Whatever stands outside the blocks says nothing, nor does a block whose label is not
known.
-/

namespace HttpServer.Pem

inductive Fault
  | missingEnd (label : Bytes)
  | illegalStart (line : Bytes)
  | base64 (fault : Base64.Fault)
deriving DecidableEq, Repr

def Fault.message : Fault → String
  | .missingEnd label => "section end " ++ Text.quoted (Utf8.lossy label) ++ " missing"
  | .illegalStart line => "illegal section start: " ++ Text.quoted (Utf8.lossy line)
  | .base64 fault => fault.message

inductive Kind
  | certificate
  | anyKey
  | rsaKey
  | ecKey
  | other
deriving DecidableEq, Repr

def kinds : List (String × Kind) := [
  ("CERTIFICATE", .certificate),
  ("PRIVATE KEY", .anyKey),
  ("RSA PRIVATE KEY", .rsaKey),
  ("EC PRIVATE KEY", .ecKey),
  ("PUBLIC KEY", .other),
  ("X509 CRL", .other),
  ("CERTIFICATE REQUEST", .other),
  ("ECHCONFIG", .other)]

def kind? (label : Bytes) : Option Kind :=
  (kinds.find? fun entry => Utf8.bytes entry.1 = label).map Prod.snd

structure Block where
  kind : Kind
  content : Bytes
deriving DecidableEq, Repr

def isLineEnd (byte : UInt8) : Bool :=
  byte = 0x0A || byte = 0x0D

def lines (file : Bytes) : List Bytes :=
  file.foldr (fun byte lines =>
    if isLineEnd byte then [byte] :: lines
    else
      match lines with
      | line :: rest => (byte :: line) :: rest
      | [] => [[byte]]) []

def opening : Bytes := Utf8.bytes "-----BEGIN "
def closing : Bytes := Utf8.bytes "-----END "
def dash : UInt8 := 0x2D
def dashes : Bytes := Utf8.bytes "-----"

def trailing (count : Nat) : Bytes → Nat × Bytes
  | [] => (count, [])
  | byte :: rest =>
    if byte = dash then trailing (count + 1) rest
    else if isLineEnd byte || byte = 0x20 then
      let (total, left) := trailing count rest
      if total = count then (count, byte :: rest) else (total, left)
    else (count, byte :: rest)

def openedLabel? (line : Bytes) : Option Bytes :=
  let (count, left) := trailing 0 (line.drop opening.length).reverse
  if count = 5 then some left.reverse else none

def closes (label line : Bytes) : Bool :=
  (closing ++ label ++ dashes).isPrefixOf line

/-- A reader between two lines: the label of the open block, its lines so far, newest first, and
the blocks that were read, newest first. -/
structure Reader where
  label : Option Bytes := none
  content : List Bytes := []
  blocks : List (Except Fault Block) := []

namespace Reader

def push (reader : Reader) (line : Bytes) : Reader :=
  if opening.isPrefixOf line then
    match openedLabel? line with
    | some label => { reader with label := some label }
    | none => { blocks := .error (.illegalStart line) :: reader.blocks }
  else
    match reader.label with
    | none => reader
    | some label =>
      if closes label line then
        match kind? label with
        | none => { blocks := reader.blocks }
        | some kind =>
          let block := match Base64.decode reader.content.reverse.flatten with
            | .ok content => .ok ⟨kind, content⟩
            | .error fault => .error (.base64 fault)
          { blocks := block :: reader.blocks }
      else { reader with content := line :: reader.content }

def finish (reader : Reader) : List (Except Fault Block) :=
  match reader.label with
  | some label => (.error (.missingEnd label) :: reader.blocks).reverse
  | none => reader.blocks.reverse

end Reader

def blocks (file : Bytes) : List (Except Fault Block) :=
  ((lines file).foldl Reader.push {}).finish

end HttpServer.Pem
