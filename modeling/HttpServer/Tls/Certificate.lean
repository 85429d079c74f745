import HttpServer.Tls.Der

/-!
What a certificate says of its public key. The rest of it is only followed as far as is needed to
find that, and to refuse what is no certificate or demands what is not understood.
-/

namespace HttpServer.Tls.Certificate

inductive Fault
  | encoding
  | version
  | algorithms
  | criticalExtension
  | repeatedExtension
deriving DecidableEq, Repr

def Fault.message : Fault → String
  | .encoding => "invalid peer certificate: BadEncoding"
  | .version => "invalid peer certificate: Other(OtherError(UnsupportedCertVersion))"
  | .algorithms => "invalid peer certificate: Other(OtherError(SignatureAlgorithmMismatch))"
  | .criticalExtension =>
    "invalid peer certificate: Other(OtherError(UnsupportedCriticalExtension))"
  | .repeatedExtension => "invalid peer certificate: Other(OtherError(ExtensionValueInvalid))"

def encoded {α : Type} (value : Option α) : Except Fault α :=
  match value with
  | some value => .ok value
  | none => .error .encoding

def readVersion (input : Bytes) : Except Fault Bytes :=
  if Der.begins Der.Tag.context0 input then do
    let (content, rest) ← encoded (Der.expect? Der.Tag.context0 input)
    let (version, more) ← encoded (Der.small? content)
    if version = 2 && more.isEmpty then return rest else throw .version
  else .error .version

/-! ### Extensions -/

structure Extension where
  name : Bytes
  critical : Bool
  value : Bytes

def readFlag (input : Bytes) : Except Fault (Bool × Bytes) :=
  if Der.begins Der.Tag.boolean input then do
    match ← encoded (Der.expect? Der.Tag.boolean input) with
    | ([0xFF], rest) => return (true, rest)
    | ([0x00], rest) => return (false, rest)
    | _ => throw .encoding
  else .ok (false, input)

def readExtension (input : Bytes) : Except Fault Extension := do
  let (name, rest) ← encoded (Der.expect? Der.Tag.objectIdentifier input)
  let (critical, rest) ← readFlag rest
  let value ← encoded (Der.only? Der.Tag.octetString rest)
  return { name, critical, value }

def extensionName (last : UInt8) : Bytes :=
  [0x55, 0x1D, last]

def keyUsage : Bytes := extensionName 15

def understood : List Bytes :=
  [15, 17, 19, 30, 31, 37].map extensionName

/-- An extension that is understood comes once, and one that is not must not be critical. -/
def checkExtension (seen : List Bytes) (extension : Extension) : Except Fault (List Bytes) :=
  if understood.contains extension.name then do
    if seen.contains extension.name then throw .repeatedExtension
    if extension.name ≠ keyUsage then
      let _ ← encoded (Der.only? Der.Tag.sequence extension.value)
    return extension.name :: seen
  else if extension.critical then .error .criticalExtension
  else .ok seen

def checkExtensionsWithin : Nat → List Bytes → Bytes → Except Fault Unit
  | 0, _, _ => .ok ()
  | bound + 1, seen, input => do
    let (content, rest) ← encoded (Der.expect? Der.Tag.sequence input)
    let seen ← checkExtension seen (← readExtension content)
    if rest.isEmpty then return else checkExtensionsWithin bound seen rest

def checkExtensions (input : Bytes) : Except Fault Unit :=
  if input.isEmpty then .ok ()
  else do
    let tagged ← encoded (Der.only? Der.Tag.context3 input)
    let extensions ← encoded (Der.only? Der.Tag.sequence tagged)
    checkExtensionsWithin (extensions.length + 1) [] extensions

def publicKeyInfo (certificate : Bytes) : Except Fault Bytes := do
  let outer ← encoded (Der.only? Der.Tag.sequence certificate)
  let (signed, rest) ← encoded (Der.expect? Der.Tag.sequence outer)
  let (algorithm, rest) ← encoded (Der.expect? Der.Tag.sequence rest)
  let signature ← encoded (Der.only? Der.Tag.bitString rest)
  let _ ← encoded (Der.wholeBits? signature)
  let rest ← readVersion signed
  let (_, rest) ← encoded (Der.expect? Der.Tag.integer rest)
  let (inner, rest) ← encoded (Der.expect? Der.Tag.sequence rest)
  if inner ≠ algorithm then throw .algorithms
  let (_, rest) ← encoded (Der.expect? Der.Tag.sequence rest)
  let (_, rest) ← encoded (Der.expect? Der.Tag.sequence rest)
  let (_, rest) ← encoded (Der.expect? Der.Tag.sequence rest)
  let (key, rest) ← encoded (Der.expect? Der.Tag.sequence rest)
  checkExtensions rest
  return Der.write Der.Tag.sequence key

end HttpServer.Tls.Certificate
