import HttpServer.FileTree
import HttpServer.Tls.Library

/-!
The identity of a server that speaks TLS: a chain of certificates and the private key of the
first. Both are read from files, and the key must be the one that the certificate shows.
-/

namespace HttpServer

def FileError.kind : FileError → String
  | .missing => "NotFound"
  | .notDirectory => "NotADirectory"
  | .isDirectory => "IsADirectory"
  | .nameTooLong => "InvalidFilename"
  | .nulInPath => "InvalidInput"

def FileError.asIoError (error : FileError) : IoError :=
  ⟨error.kind, error.message⟩

structure TlsIdentity where
  certificates : List Bytes
  key : Tls.PrivateKey
deriving DecidableEq, Repr

namespace TlsIdentity

def loadCertificates (library : Tls.Library) (files : FileTree) (path : String) :
    Except TlsError (List Bytes) :=
  match files.read path with
  | .error error => .error (.certificateFile path error.asIoError)
  | .ok file =>
    match (library.certificates file).filterMap Except.toOption with
    | [] => .error (.noCertificates path)
    | found => .ok found

def firstKey (path : String) : List (Except IoError Tls.Item) → Except TlsError Tls.PrivateKey
  | [] => .error (.noPrivateKey path)
  | .error source :: _ => .error (.keyFile path source)
  | .ok (.key key) :: _ => .ok key
  | .ok _ :: rest => firstKey path rest

def loadKey (library : Tls.Library) (files : FileTree) (path : String) :
    Except TlsError Tls.PrivateKey :=
  match files.read path with
  | .error error => .error (.keyFile path error.asIoError)
  | .ok file => firstKey path (library.items file)

/-- Refuses a key that does not belong to the first certificate, if that can be told. -/
def checkKey (library : Tls.Library) (certificates : List Bytes) (key : Tls.PrivateKey) :
    Except TlsError Unit :=
  match library.keyFault? key with
  | some fault => .error (.keyMismatch fault)
  | none =>
    match library.agreement certificates key with
    | .consistent | .unknown => .ok ()
    | .refuted reason => .error (.keyMismatch reason)

def checkSettings (library : Tls.Library) (certificates : List Bytes) (key : Tls.PrivateKey) :
    Except TlsError Unit :=
  match library.settingsFault? certificates key with
  | some fault => .error (.settings fault)
  | none => .ok ()

def load (library : Tls.Library) (files : FileTree) (certificatePath keyPath : String) :
    Except TlsError TlsIdentity := do
  let certificates ← loadCertificates library files certificatePath
  let key ← loadKey library files keyPath
  checkKey library certificates key
  checkSettings library certificates key
  return { certificates, key }

def shown : String :=
  "TlsContext \x7b .. \x7d"

end TlsIdentity

end HttpServer
