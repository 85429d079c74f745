/-!
Why a server does not start. Each cause is a constructor, and `message` is its wording.
-/

namespace HttpServer

structure IoError where
  kind : String
  message : String
deriving DecidableEq, Repr

inductive TlsError
  | certificateFile (path : String) (source : IoError)
  | keyFile (path : String) (source : IoError)
  | noCertificates (path : String)
  | noPrivateKey (path : String)
  | keyMismatch (reason : String)
  | settings (reason : String)
  | handshake (reason : String)
deriving DecidableEq, Repr

def TlsError.message : TlsError → String
  | .certificateFile path source =>
    "failed to open certificate file " ++ path ++ ": " ++ source.message
  | .keyFile path source => "failed to open key file " ++ path ++ ": " ++ source.message
  | .noCertificates path => "no certificates found in " ++ path
  | .noPrivateKey path => "no private key found in " ++ path
  | .keyMismatch reason => "private key does not match the certificate: " ++ reason
  | .settings reason => reason
  | .handshake reason => "TLS handshake failed: " ++ reason

inductive ServerError
  | alreadyRunning
  | invalidAddress (host : String)
  | bind (address : String) (source : IoError)
  | notBound
  | listen (source : IoError)
  | tls (error : TlsError)
  | io (source : IoError)
deriving DecidableEq, Repr

def ServerError.message : ServerError → String
  | .alreadyRunning => "server is already running"
  | .invalidAddress host => "invalid address: " ++ host
  | .bind address source => "failed to bind " ++ address ++ ": " ++ source.message
  | .notBound => "listen called before a successful bind"
  | .listen source => "failed to listen: " ++ source.message
  | .tls error => "TLS error: " ++ error.message
  | .io source => "I/O error: " ++ source.message

end HttpServer
