import HttpServer.Text.Utf8

/-!
Values with a tag and a length in front of them. Only the shortest form of a length is read, and
none above 65535.
-/

namespace HttpServer.Der

namespace Tag

def boolean : UInt8 := 0x01
def integer : UInt8 := 0x02
def bitString : UInt8 := 0x03
def octetString : UInt8 := 0x04
def objectIdentifier : UInt8 := 0x06
def sequence : UInt8 := 0x30
def context0 : UInt8 := 0xA0
def context1 : UInt8 := 0xA1
def context3 : UInt8 := 0xA3
def plainContext1 : UInt8 := 0x81

end Tag

def readLength? : Bytes → Option (Nat × Bytes)
  | 0x81 :: low :: rest => if low < 0x80 then none else some (low.toNat, rest)
  | 0x82 :: high :: low :: rest =>
    if high = 0 then none else some (high.toNat * 256 + low.toNat, rest)
  | low :: rest => if low < 0x80 then some (low.toNat, rest) else none
  | [] => none

def read? : Bytes → Option (UInt8 × Bytes × Bytes)
  | [] => none
  | tag :: rest => do
    if tag &&& 0x1F = 0x1F then none
    let (length, rest) ← readLength? rest
    if rest.length < length then none
    return (tag, rest.take length, rest.drop length)

def expect? (tag : UInt8) (input : Bytes) : Option (Bytes × Bytes) := do
  let (found, content, rest) ← read? input
  if found = tag then some (content, rest) else none

def only? (tag : UInt8) (input : Bytes) : Option Bytes := do
  let (content, rest) ← expect? tag input
  if rest.isEmpty then some content else none

def begins (tag : UInt8) (input : Bytes) : Bool :=
  input.head? = some tag

def number (bytes : Bytes) : Nat :=
  bytes.foldl (fun value byte => value * 256 + byte.toNat) 0

def numberBytes : Nat → Nat → Bytes
  | 0, _ => []
  | count + 1, value => numberBytes count (value / 256) ++ [(value % 256).toUInt8]

def natural? (input : Bytes) : Option (Nat × Bytes) := do
  let (content, rest) ← expect? Tag.integer input
  match content with
  | [] => none
  | [0] => some (0, rest)
  | 0 :: second :: more => if second < 0x80 then none else some (number (second :: more), rest)
  | first :: more => if first < 0x80 then some (number (first :: more), rest) else none

def small? (input : Bytes) : Option (Nat × Bytes) := do
  let (value, rest) ← natural? input
  if value < 128 then some (value, rest) else none

def wholeBits? : Bytes → Option Bytes
  | 0 :: bytes => some bytes
  | _ => none

def lengthBytes (length : Nat) : Bytes :=
  if length < 128 then [length.toUInt8]
  else if length < 256 then [0x81, length.toUInt8]
  else [0x82, (length / 256).toUInt8, (length % 256).toUInt8]

/-- A value with its tag and length, for contents of less than 65536 bytes. -/
def write (tag : UInt8) (content : Bytes) : Bytes :=
  tag :: (lengthBytes content.length ++ content)

def minimalBytes (value : Nat) : Bytes :=
  numberBytes ((Nat.log2 value) / 8 + 1) value

def writePositive (value : Nat) : Bytes :=
  let bytes := minimalBytes value
  write Tag.integer (if bytes.headD 0 < 0x80 then bytes else 0 :: bytes)

def writeBits (bytes : Bytes) : Bytes :=
  write Tag.bitString (0 :: bytes)

end HttpServer.Der
