import HttpServer.Failure
import HttpServer.Text.Utf8

/-!
What a server leaves to a library for TLS: to find certificates and keys in files, and to tell
whether they belong together.
-/

namespace HttpServer.Tls

inductive KeyFormat
  | wrapped
  | rsa
  | elliptic
deriving DecidableEq, Repr

structure PrivateKey where
  format : KeyFormat
  content : Bytes
deriving DecidableEq, Repr

inductive Item
  | certificate (content : Bytes)
  | key (key : PrivateKey)
  | other
deriving DecidableEq, Repr

inductive Agreement
  | consistent
  | unknown
  | refuted (reason : String)
deriving DecidableEq, Repr

/-- Faults are given as texts; `none` is success. -/
structure Library where
  certificates : Bytes → List (Except IoError Bytes)
  items : Bytes → List (Except IoError Item)
  keyFault? : PrivateKey → Option String
  agreement : List Bytes → PrivateKey → Agreement
  settingsFault? : List Bytes → PrivateKey → Option String

end HttpServer.Tls
