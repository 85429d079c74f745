import HttpServer.Text.Decimal
import HttpServer.Text.Utf8

/-!
Reading base64. Blanks between the characters say nothing, and the marks that fill up the last
group of four may be missing.
-/

namespace HttpServer.Base64

inductive Fault
  | character (byte : UInt8)
deriving DecidableEq, Repr

def Fault.message : Fault → String
  | .character byte => "InvalidCharacter(" ++ decimal byte.toNat ++ ")"

inductive Symbol
  | digit (value : UInt8)
  | fill
  | blank
deriving DecidableEq, Repr

def symbol? (byte : UInt8) : Option Symbol :=
  if 0x41 ≤ byte && byte ≤ 0x5A then some (.digit (byte - 0x41))
  else if 0x61 ≤ byte && byte ≤ 0x7A then some (.digit (byte - 0x61 + 26))
  else if 0x30 ≤ byte && byte ≤ 0x39 then some (.digit (byte - 0x30 + 52))
  else if byte = 0x2B then some (.digit 62)
  else if byte = 0x2F then some (.digit 63)
  else if byte = 0x3D then some .fill
  else if byte = 0x20 || (0x09 ≤ byte && byte ≤ 0x0D) then some .blank
  else none

def symbolsOnto (done : List Symbol) : Bytes → Except Fault (List Symbol)
  | [] => .ok done.reverse
  | byte :: rest =>
    match symbol? byte with
    | none => .error (.character byte)
    | some .blank => symbolsOnto done rest
    | some symbol => symbolsOnto (symbol :: done) rest

def fillMark : UInt8 := 0x3D

def bytesOnto (done : Bytes) : List Symbol → Except Fault Bytes
  | .digit a :: .digit b :: .digit c :: .digit d :: rest =>
    bytesOnto ((c <<< 6 ||| d) :: (b <<< 4 ||| c >>> 2) :: (a <<< 2 ||| b >>> 4) :: done) rest
  | [.digit a, .digit b, .digit c] | [.digit a, .digit b, .digit c, .fill] =>
    .ok ((b <<< 4 ||| c >>> 2) :: (a <<< 2 ||| b >>> 4) :: done).reverse
  | [.digit a, .digit b] | [.digit a, .digit b, .fill] | [.digit a, .digit b, .fill, .fill] =>
    .ok ((a <<< 2 ||| b >>> 4) :: done).reverse
  | [] => .ok done.reverse
  | _ => .error (.character fillMark)

def decode (text : Bytes) : Except Fault Bytes := do
  bytesOnto [] (← symbolsOnto [] text)

end HttpServer.Base64
