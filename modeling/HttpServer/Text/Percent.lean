import HttpServer.Text.Utf8

/-!
Percent-encoding of URL components. `unescape` works on bytes: an escape `%XX` stands for one
byte, `+` for a space, and every other byte, a `%` that begins no escape included, for itself.
-/

namespace HttpServer.Percent

def hexValue? (byte : UInt8) : Option UInt8 :=
  if 0x30 ≤ byte && byte ≤ 0x39 then some (byte - 0x30)
  else if 0x41 ≤ byte && byte ≤ 0x46 then some (byte - 0x41 + 10)
  else if 0x61 ≤ byte && byte ≤ 0x66 then some (byte - 0x61 + 10)
  else none

def unescapeFrom (done : Bytes) : Bytes → Bytes
  | [] => done.reverse
  | 0x25 :: high :: low :: rest =>
    match hexValue? high, hexValue? low with
    | some first, some second => unescapeFrom ((first * 16 + second) :: done) rest
    | _, _ => unescapeFrom (0x25 :: done) (high :: low :: rest)
  | byte :: rest => unescapeFrom ((if byte = 0x2B then 0x20 else byte) :: done) rest

def unescape (input : Bytes) : Bytes :=
  unescapeFrom [] input

/-- The text that a component stands for. Bytes that are not UTF-8 are read lossily. -/
def decode (component : String) : String :=
  Utf8.lossy (unescape (Utf8.bytes component))

end HttpServer.Percent
