import HttpServer.Json.Printer
import HttpServer.Text.Decimal

/-!
The configuration of the server: its default values, its check, and its two summaries.
-/

namespace HttpServer

structure Config where
  port : Option Nat := none
  host : String := "0.0.0.0"
  https : Bool := false
  cert : String := "./certs/server.crt"
  key : String := "./certs/server.key"
  maxConnections : Nat := 100
  timeoutSecs : Nat := 30
  workers : Nat
  backlog : Int := 128
  staticDir : Option String := none
  logLevel : String := "info"
deriving DecidableEq, Repr

namespace Config

def defaultHttpPort : Nat := 8080
def defaultHttpsPort : Nat := 8443

def effectivePort (config : Config) : Nat :=
  config.port.getD (if config.https then defaultHttpsPort else defaultHttpPort)

def address (config : Config) : String :=
  config.host ++ ":" ++ decimal config.effectivePort

def scheme (config : Config) : String :=
  if config.https then "https" else "http"

inductive Fault
  | noWorkers
  | noTimeout
  | noConnections
  | noBacklog
  | noCertificate
  | noPrivateKey
deriving DecidableEq, Repr

def Fault.reason : Fault → String
  | .noWorkers => "Workers must be >= 1"
  | .noTimeout => "Timeout must be > 0"
  | .noConnections => "Max connections must be >= 1"
  | .noBacklog => "Backlog must be > 0"
  | .noCertificate => "HTTPS requires a certificate path"
  | .noPrivateKey => "HTTPS requires a private key path"

def refusal (reason : String) : String :=
  "invalid configuration: " ++ reason

def Fault.message (fault : Fault) : String :=
  refusal fault.reason

def fault? (config : Config) : Option Fault :=
  if config.workers = 0 then some .noWorkers
  else if config.timeoutSecs = 0 then some .noTimeout
  else if config.maxConnections = 0 then some .noConnections
  else if config.backlog ≤ 0 then some .noBacklog
  else if config.https && config.cert.isEmpty then some .noCertificate
  else if config.https && config.key.isEmpty then some .noPrivateKey
  else none

def summaryJson (config : Config) : String :=
  let text (value : String) := Json.quotedText value
  let optional {α : Type} (write : α → String) (value : Option α) := (value.map write).getD "null"
  let members := [
    ("port", optional decimal config.port),
    ("host", text config.host),
    ("https", if config.https then "true" else "false"),
    ("cert", text config.cert),
    ("key", text config.key),
    ("max_connections", decimal config.maxConnections),
    ("timeout_secs", decimal config.timeoutSecs),
    ("workers", decimal config.workers),
    ("backlog", decimalInt config.backlog),
    ("static_dir", optional text config.staticDir),
    ("log_level", text config.logLevel)]
  "\x7b\n" ++
    ",\n".intercalate (members.map fun member => "  " ++ text member.1 ++ ": " ++ member.2) ++
    "\n\x7d"

def banner : List String := [
  "╔══════════════════════════════════════════════════════════════╗",
  "║               Hilos HTTP Server Configuration                ║",
  "╚══════════════════════════════════════════════════════════════╝",
  ""]

def summaryLines (config : Config) : List String :=
  banner ++ [
    "🌐 Network:",
    "   Address:      " ++ config.scheme ++ "://" ++ config.address,
    "   Backlog:      " ++ decimalInt config.backlog,
    "   Timeout:      " ++ decimal config.timeoutSecs ++ " s",
    "   Max conns:    " ++ decimal config.maxConnections ++ " (hint)",
    "",
    "👷 Worker Pool:",
    "   Workers:      " ++ decimal config.workers,
    ""] ++
  (if config.https then [
    "🔒 TLS:",
    "   Certificate:  " ++ config.cert,
    "   Private key:  " ++ config.key,
    ""] else []) ++
  (match config.staticDir with
    | some directory => ["📁 Static:       /static → " ++ directory, ""]
    | none => []) ++
  ["═══════════════════════════════════════════════════════════════", ""]

def summary (config : Config) : String :=
  String.join (config.summaryLines.map (· ++ "\n"))

end Config

end HttpServer
