/-!
Text as bytes. `bytes` writes a text in UTF-8. `lossy` reads any bytes as text: every valid
sequence becomes its character, and every longest piece that begins a valid sequence without
completing it becomes one U+FFFD.
-/

namespace HttpServer

abbrev Bytes := List UInt8

namespace Utf8

def encode (text : List Char) : Bytes :=
  text.flatMap String.utf8EncodeChar

def bytes (text : String) : Bytes :=
  encode text.toList

def replacement : Char := '\uFFFD'

/-- A sequence whose first bytes have been read: the value so far, the number of bytes still to
come, and the bounds on the next one. -/
structure Pending where
  value : Nat
  missing : Nat
  low : UInt8 := 0x80
  high : UInt8 := 0xBF
deriving DecidableEq, Repr

structure Decoder where
  pending : Option Pending := none
  decoded : List Char := []
deriving DecidableEq, Repr

namespace Decoder

def start (decoded : List Char) (byte : UInt8) : Decoder :=
  if byte < 0x80 then ⟨none, Char.ofNat byte.toNat :: decoded⟩
  else if 0xC2 ≤ byte && byte ≤ 0xDF then ⟨some ⟨byte.toNat - 0xC0, 1, 0x80, 0xBF⟩, decoded⟩
  else if byte = 0xE0 then ⟨some ⟨0, 2, 0xA0, 0xBF⟩, decoded⟩
  else if byte = 0xED then ⟨some ⟨0xD, 2, 0x80, 0x9F⟩, decoded⟩
  else if 0xE1 ≤ byte && byte ≤ 0xEF then ⟨some ⟨byte.toNat - 0xE0, 2, 0x80, 0xBF⟩, decoded⟩
  else if byte = 0xF0 then ⟨some ⟨0, 3, 0x90, 0xBF⟩, decoded⟩
  else if 0xF1 ≤ byte && byte ≤ 0xF3 then ⟨some ⟨byte.toNat - 0xF0, 3, 0x80, 0xBF⟩, decoded⟩
  else if byte = 0xF4 then ⟨some ⟨4, 3, 0x80, 0x8F⟩, decoded⟩
  else ⟨none, replacement :: decoded⟩

def push (decoder : Decoder) (byte : UInt8) : Decoder :=
  match decoder.pending with
  | none => start decoder.decoded byte
  | some pending =>
    if pending.low ≤ byte && byte ≤ pending.high then
      let value := pending.value * 64 + (byte.toNat - 0x80)
      if pending.missing = 1 then ⟨none, Char.ofNat value :: decoder.decoded⟩
      else ⟨some ⟨value, pending.missing - 1, 0x80, 0xBF⟩, decoder.decoded⟩
    else start (replacement :: decoder.decoded) byte

def finish (decoder : Decoder) : List Char :=
  match decoder.pending with
  | none => decoder.decoded.reverse
  | some _ => (replacement :: decoder.decoded).reverse

end Decoder

def decode (input : Bytes) : List Char :=
  (input.foldl Decoder.push {}).finish

def lossy (input : Bytes) : String :=
  String.ofList (decode input)

def text? (input : Bytes) : Option String :=
  let text := lossy input
  if bytes text = input then some text else none

end Utf8

end HttpServer
