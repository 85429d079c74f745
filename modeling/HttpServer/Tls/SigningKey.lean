import HttpServer.Tls.Edwards
import HttpServer.Tls.Library

/-!
Private keys. Reading one checks that its numbers fit each other, and gives what a certificate
shows of it: the algorithm and the public key.
-/

namespace HttpServer.Tls

/-! ### Algorithm identifiers

The name of an algorithm, and its parameters. -/

namespace Algorithm

def rsa : Bytes :=
  [0x06, 0x09, 0x2A, 0x86, 0x48, 0x86, 0xF7, 0x0D, 0x01, 0x01, 0x01, 0x05, 0x00]

def ellipticCurve : Bytes :=
  [0x06, 0x07, 0x2A, 0x86, 0x48, 0xCE, 0x3D, 0x02, 0x01]

def p256 : Bytes :=
  [0x06, 0x08, 0x2A, 0x86, 0x48, 0xCE, 0x3D, 0x03, 0x01, 0x07]

def p384 : Bytes :=
  [0x06, 0x05, 0x2B, 0x81, 0x04, 0x00, 0x22]

def ed25519 : Bytes :=
  [0x06, 0x03, 0x2B, 0x65, 0x70]

end Algorithm

def publicKeyInfo (algorithm key : Bytes) : Bytes :=
  Der.write Der.Tag.sequence (Der.write Der.Tag.sequence algorithm ++ Der.writeBits key)

/-! ### The wrapping of any key -/

/-- What versions of the wrapping a key may have. The second holds the public key too. -/
inductive Versions
  | first
  | both
deriving DecidableEq, Repr

def wrappedPublic? (input : Bytes) : Option Bytes := do
  if Der.begins Der.Tag.context1 input then
    Der.wholeBits? (← Der.only? Der.Tag.bitString (← Der.only? Der.Tag.context1 input))
  else Der.wholeBits? (← Der.only? Der.Tag.plainContext1 input)

def unwrap? (algorithm : Bytes) (versions : Versions) (input : Bytes) :
    Option (Bytes × Option Bytes) := do
  let (version, rest) ← Der.small? (← Der.only? Der.Tag.sequence input)
  let (found, rest) ← Der.expect? Der.Tag.sequence rest
  if found ≠ algorithm then none
  let (key, rest) ← Der.expect? Der.Tag.octetString rest
  let rest ← if Der.begins Der.Tag.context0 rest then
      Prod.snd <$> Der.expect? Der.Tag.context0 rest
    else some rest
  match version, versions with
  | 0, _ => if rest.isEmpty then some (key, none) else none
  | 1, .both => return (key, some (← wrappedPublic? rest))
  | _, _ => none

/-! ### RSA -/

namespace Rsa

structure Key where
  modulus : Nat
  exponent : Nat
  privateExponent : Nat
  prime₁ : Nat
  prime₂ : Nat
  exponent₁ : Nat
  exponent₂ : Nat
  coefficient : Nat
deriving DecidableEq, Repr

def bits (value : Nat) : Nat :=
  if value = 0 then 0 else Nat.log2 value + 1

def isOdd (value : Nat) : Bool :=
  value % 2 = 1

def minBits : Nat := 2048
def maxBits : Nat := 4096

def factorStep : Nat := 512

def ordered (key : Key) : Nat × Nat × Nat × Nat × Bool :=
  if key.prime₂ < key.prime₁ then
    (key.prime₁, key.exponent₁, key.prime₂, key.exponent₂, true)
  else (key.prime₂, key.exponent₂, key.prime₁, key.exponent₁, false)

/-- Whether the smaller factor has an inverse modulo the larger: the given one, or if the factors
were given the other way round, the one that a prime modulus has. -/
def hasInverse (key : Key) : Bool :=
  let (large, _, small, _, inOrder) := ordered key
  if inOrder then key.coefficient < large && key.coefficient * small % large = 1
  else ModularArithmetic.power large small (large - 1) = 1

def isSound (key : Key) : Bool :=
  let (large, largeExponent, small, smallExponent, _) := ordered key
  let half := (bits key.modulus + 1) / 2
  isOdd key.modulus && minBits ≤ bits key.modulus && bits key.modulus ≤ maxBits &&
    isOdd key.exponent && 65537 ≤ key.exponent && key.exponent < Nat.pow 2 33 &&
    bits large = half && bits small = half && half % factorStep = 0 &&
    isOdd large && isOdd small && large * small % key.modulus = 0 &&
    isOdd key.privateExponent && half < bits key.privateExponent &&
    key.privateExponent < key.modulus &&
    isOdd largeExponent && largeExponent < large &&
    isOdd smallExponent && smallExponent < small &&
    hasInverse key

def ofBytes? (input : Bytes) : Option Key := do
  let (version, rest) ← Der.small? (← Der.only? Der.Tag.sequence input)
  if version ≠ 0 then none
  let (modulus, rest) ← Der.natural? rest
  let (exponent, rest) ← Der.natural? rest
  let (privateExponent, rest) ← Der.natural? rest
  let (prime₁, rest) ← Der.natural? rest
  let (prime₂, rest) ← Der.natural? rest
  let (exponent₁, rest) ← Der.natural? rest
  let (exponent₂, rest) ← Der.natural? rest
  let (coefficient, rest) ← Der.natural? rest
  let key : Key := {
    modulus, exponent, privateExponent, prime₁, prime₂, exponent₁, exponent₂, coefficient }
  if rest.isEmpty && isSound key then some key else none

def publicKey (key : Key) : Bytes :=
  Der.write Der.Tag.sequence (Der.writePositive key.modulus ++ Der.writePositive key.exponent)

end Rsa

/-! ### Elliptic curves -/

namespace Elliptic

def publicKey? (curve : Curve) (key : Bytes) : Option Bytes := do
  let factor := Der.number key
  if key.length ≠ curve.size || factor = 0 || curve.order ≤ factor then none
  let (x, y) ← curve.multiple factor
  return 0x04 :: (Der.numberBytes curve.size x ++ Der.numberBytes curve.size y)

def ofBytes? (curve : Curve) (name : Bytes) (input : Bytes) : Option Bytes := do
  let (version, rest) ← Der.small? (← Der.only? Der.Tag.sequence input)
  if version ≠ 1 then none
  let (key, rest) ← Der.expect? Der.Tag.octetString rest
  let rest ← if Der.begins Der.Tag.context0 rest then do
      let (found, rest) ← Der.expect? Der.Tag.context0 rest
      if found = name then some rest else none
    else some rest
  let given ← Der.wholeBits? (← Der.only? Der.Tag.bitString (← Der.only? Der.Tag.context1 rest))
  if publicKey? curve key = some given then some given else none

def info? (curve : Curve) (name : Bytes) (input : Bytes) : Option Bytes :=
  (ofBytes? curve name input).map (publicKeyInfo (Algorithm.ellipticCurve ++ name))

end Elliptic

/-! ### Edwards curves -/

namespace Edwards

def info? (input : Bytes) : Option Bytes := do
  let (wrapped, given) ← unwrap? Algorithm.ed25519 .both input
  let seed ← Der.only? Der.Tag.octetString wrapped
  if seed.length ≠ seedSize then none
  let key := publicKey seed
  if given.all (· = key) then some (publicKeyInfo Algorithm.ed25519 key) else none

end Edwards

/-! ### Any key -/

def rsaInfo? (input : Bytes) : Option Bytes :=
  (Rsa.ofBytes? input).map fun key => publicKeyInfo Algorithm.rsa (Rsa.publicKey key)

def ellipticInfo? (input : Bytes) : Option Bytes :=
  (Elliptic.info? Curve.p256 Algorithm.p256 input).or
    (Elliptic.info? Curve.p384 Algorithm.p384 input)

def wrappedEllipticInfo? (curve : Curve) (name : Bytes) (input : Bytes) : Option Bytes := do
  let (key, _) ← unwrap? (Algorithm.ellipticCurve ++ name) .first input
  Elliptic.info? curve name key

def wrappedInfo? (input : Bytes) : Option Bytes :=
  ((unwrap? Algorithm.rsa .first input).bind fun (key, _) => rsaInfo? key).or
    ((wrappedEllipticInfo? Curve.p256 Algorithm.p256 input).or
      ((wrappedEllipticInfo? Curve.p384 Algorithm.p384 input).or (Edwards.info? input)))

def privateKeyInfo? (key : PrivateKey) : Option Bytes :=
  match key.format with
  | .wrapped => wrappedInfo? key.content
  | .rsa => rsaInfo? key.content
  | .elliptic => ellipticInfo? key.content

end HttpServer.Tls
