import HttpServer.Tls.Certificate
import HttpServer.Tls.Pem
import HttpServer.Tls.SigningKey

/-!
The library that the program runs with.
-/

namespace HttpServer.Tls.Standard

def item (block : Pem.Block) : Item :=
  match block.kind with
  | .certificate => .certificate block.content
  | .anyKey => .key ⟨.wrapped, block.content⟩
  | .rsaKey => .key ⟨.rsa, block.content⟩
  | .ecKey => .key ⟨.elliptic, block.content⟩
  | .other => .other

def items (file : Bytes) : List (Except IoError Item) :=
  (Pem.blocks file).map fun block =>
    (block.map item).mapError fun fault => ⟨"InvalidData", fault.message⟩

def certificates (file : Bytes) : List (Except IoError Bytes) :=
  (items file).filterMap fun read =>
    match read with
    | .ok (.certificate content) => some (.ok content)
    | .ok _ => none
    | .error source => some (.error source)

def unreadableKey : String :=
  "unexpected error: failed to parse private key as RSA, ECDSA, or EdDSA"

def otherKey : String :=
  "keys may not be consistent: KeyMismatch"

def keyFault? (key : PrivateKey) : Option String :=
  match privateKeyInfo? key with
  | some _ => none
  | none => some unreadableKey

def agreement (certificates : List Bytes) (key : PrivateKey) : Agreement :=
  match privateKeyInfo? key, Certificate.publicKeyInfo (certificates.headD []) with
  | none, _ => .unknown
  | some _, .error fault => .refuted fault.message
  | some info, .ok shown => if info = shown then .consistent else .refuted otherKey

end HttpServer.Tls.Standard

namespace HttpServer.Tls

/-- A key that agrees with its certificate needs no other settings. -/
def Library.standard : Library where
  certificates := Standard.certificates
  items := Standard.items
  keyFault? := Standard.keyFault?
  agreement := Standard.agreement
  settingsFault? _ _ := none

end HttpServer.Tls
