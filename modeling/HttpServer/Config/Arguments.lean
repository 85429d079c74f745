import HttpServer.Config
import HttpServer.Config.Similarity
import HttpServer.Program
import HttpServer.Text.Pieces

/-!
Reading the configuration from command-line arguments and environment variables. An argument
beats the variable of its option, and the variable beats the default. The value of an option that
stands in an argument of its own is read when the next option begins, so an unknown argument
behind it is reported first.
-/

namespace HttpServer.Config

inductive Setting
  | port
  | host
  | https
  | cert
  | key
  | maxConnections
  | timeout
  | workers
  | backlog
  | staticDir
  | logLevel
  | help
  | version
deriving DecidableEq, Repr

namespace Setting

def all : List Setting :=
  [.port, .host, .https, .cert, .key, .maxConnections, .timeout, .workers, .backlog, .staticDir,
    .logLevel, .help, .version]

def long : Setting → String
  | .port => "port"
  | .host => "host"
  | .https => "https"
  | .cert => "cert"
  | .key => "key"
  | .maxConnections => "max-connections"
  | .timeout => "timeout"
  | .workers => "workers"
  | .backlog => "backlog"
  | .staticDir => "static-dir"
  | .logLevel => "log-level"
  | .help => "help"
  | .version => "version"

def short? : Setting → Option Char
  | .port => some 'p'
  | .help => some 'h'
  | .version => some 'V'
  | _ => none

def valueName? : Setting → Option String
  | .port => some "PORT"
  | .host => some "HOST"
  | .cert => some "CERT"
  | .key => some "KEY"
  | .maxConnections => some "MAX_CONNECTIONS"
  | .timeout => some "TIMEOUT_SECS"
  | .workers => some "WORKERS"
  | .backlog => some "BACKLOG"
  | .staticDir => some "STATIC_DIR"
  | .logLevel => some "LOG_LEVEL"
  | .https | .help | .version => none

def envName? : Setting → Option String
  | .port => some "HTTP_PORT"
  | .host => some "HTTP_HOST"
  | .https => some "HTTPS"
  | .cert => some "TLS_CERT"
  | .key => some "TLS_KEY"
  | .maxConnections => some "MAX_CONNECTIONS"
  | .timeout => some "TIMEOUT_SECS"
  | .workers => some "WORKERS"
  | .backlog => some "BACKLOG"
  | .staticDir => some "STATIC_DIR"
  | .logLevel => some "LOG_LEVEL"
  | .help | .version => none

def purpose : Setting → String
  | .port => "Puerto en el que escucha el servidor (8080 HTTP, 8443 HTTPS)"
  | .host => "Host/IP en el que escucha"
  | .https => "Habilita HTTPS"
  | .cert => "Certificado del servidor en formato PEM"
  | .key => "Clave privada en formato PEM"
  | .maxConnections => "Máximo de conexiones simultáneas (solo indicativo)"
  | .timeout => "Timeout de lectura/escritura del socket en segundos"
  | .workers => "Número de workers del pool"
  | .backlog => "Backlog del socket de escucha"
  | .staticDir => "Directorio servido bajo /static"
  | .logLevel => "Nivel de log por defecto (RUST_LOG tiene prioridad)"
  | .help => "Print help"
  | .version => "Print version"

def flag (setting : Setting) : String :=
  "--" ++ setting.long

def shown (setting : Setting) : String :=
  match setting.valueName? with
  | some name => setting.flag ++ " <" ++ name ++ ">"
  | none => setting.flag

def ofLong? (name : List Char) : Option Setting :=
  all.find? fun setting => setting.long.toList = name

def ofShort? (c : Char) : Option Setting :=
  all.find? fun setting => setting.short? = some c

end Setting

/-- Why arguments do not make a configuration, or what they ask for instead of one. -/
inductive Refusal
  | help
  | version
  | unknownArgument (argument : String) (similar : Option Setting) (used : List Setting)
  | missingValue (setting : Setting)
  | notAllowed (setting : Setting) (value : String)
  | invalidValue (setting : Setting) (value reason : String)
  | repeated (setting : Setting)
  | unexpectedValue (setting : Setting) (value : String) (used : List Setting)
deriving DecidableEq, Repr

namespace Refusal

def usage (used : List Setting) : String :=
  let options := if used.isEmpty then ["[OPTIONS]"] else used.map Setting.shown
  "Usage: " ++ " ".intercalate (Program.name :: options)

def possibleValues : List String := ["true", "false"]

def valuesLine (setting : Setting) : String :=
  match setting.valueName? with
  | some _ => ""
  | none => "\n  [possible values: " ++ ", ".intercalate possibleValues ++ "]"

def summary : Refusal → String
  | .help => Program.about
  | .version => Program.name ++ " " ++ Program.version
  | .unknownArgument argument _ _ => "unexpected argument '" ++ argument ++ "' found"
  | .missingValue setting =>
    "a value is required for '" ++ setting.shown ++ "' but none was supplied"
  | .notAllowed setting value => "invalid value '" ++ value ++ "' for '" ++ setting.shown ++ "'"
  | .invalidValue setting value reason =>
    "invalid value '" ++ value ++ "' for '" ++ setting.shown ++ "': " ++ reason
  | .repeated setting => "the argument '" ++ setting.shown ++ "' cannot be used multiple times"
  | .unexpectedValue setting value _ =>
    "unexpected value '" ++ value ++ "' for '" ++ setting.shown ++ "' found; no more were expected"

def details : Refusal → String
  | .unknownArgument _ similar used =>
    (match similar with
      | some setting => "\n\n  tip: a similar argument exists: '" ++ setting.flag ++ "'"
      | none => "") ++ "\n\n" ++ usage used
  | .missingValue setting => valuesLine setting
  | .notAllowed setting value =>
    valuesLine setting ++
      (match Similarity.nearest? value possibleValues with
        | some similar => "\n\n  tip: a similar value exists: '" ++ similar ++ "'"
        | none => "")
  | .repeated _ => "\n\n" ++ usage []
  | .unexpectedValue _ _ used => "\n\n" ++ usage used
  | _ => ""

def helpLine (setting : Setting) : String :=
  let short := match setting.short? with
    | some c => "  -" ++ c.toString ++ ", "
    | none => "      "
  let source := match setting.envName? with
    | some name => " [env: " ++ name ++ "]"
    | none => ""
  short ++ setting.shown ++ "\n          " ++ setting.purpose ++ source ++ "\n"

def helpText : String :=
  Program.about ++ "\n\n" ++ usage [] ++ "\n\nOptions:\n" ++ String.join (Setting.all.map helpLine)

def isRequest : Refusal → Bool
  | .help | .version => true
  | _ => false

def text (refusal : Refusal) : String :=
  match refusal with
  | .help => helpText
  | .version => refusal.summary ++ "\n"
  | _ =>
    "error: " ++ refusal.summary ++ refusal.details ++
      "\n\nFor more information, try '--help'.\n"

def firstLine (refusal : Refusal) : String :=
  String.ofList (refusal.text.toList.takeWhile (· ≠ '\n'))

end Refusal

/-! ### Values -/

def maxInt64 : Nat := 9223372036854775807

def readWithin (low high : Int) (value : String) : Except String Int :=
  match readInteger maxInt64 value.toList with
  | .error fault => .error fault.message
  | .ok number =>
    if low ≤ number && number ≤ high then .ok number
    else .error (decimalInt number ++ " is not in " ++ decimalInt low ++ "..=" ++ decimalInt high)

def readWord (value : String) : Except String Nat :=
  (readNatural maxWord value.toList).mapError NumberFault.message

def assign (config : Config) (setting : Setting) (value : String) : Except Refusal Config :=
  let invalid {α : Type} (result : Except String α) : Except Refusal α :=
    result.mapError fun reason => .invalidValue setting value reason
  let path : Except Refusal String :=
    if value.isEmpty then .error (.missingValue setting) else .ok value
  match setting with
  | .port => do
    let port ← invalid (readWithin 0 65535 value)
    return { config with port := some port.toNat }
  | .host => .ok { config with host := value }
  | .https =>
    if value = "true" then .ok { config with https := true }
    else if value = "false" then .ok { config with https := false }
    else if value.isEmpty then .error (.missingValue setting)
    else .error (.notAllowed setting value)
  | .cert => do return { config with cert := ← path }
  | .key => do return { config with key := ← path }
  | .maxConnections => do return { config with maxConnections := ← invalid (readWord value) }
  | .timeout => do return { config with timeoutSecs := ← invalid (readWord value) }
  | .workers => do return { config with workers := ← invalid (readWord value) }
  | .backlog => do
    return { config with backlog := ← invalid (readWithin (-2147483648) 2147483647 value) }
  | .staticDir => do return { config with staticDir := some (← path) }
  | .logLevel => .ok { config with logLevel := value }
  | .help => .error .help
  | .version => .error .version

/-! ### Arguments -/

structure Progress where
  config : Config
  given : List Setting := []
  pending : Option (Setting × Option String) := none

namespace Progress

def give (progress : Progress) (setting : Setting) : Except Refusal Progress :=
  if progress.given.contains setting then .error (.repeated setting)
  else .ok { progress with given := progress.given ++ [setting] }

def take (progress : Progress) (setting : Setting) (value : String) :
    Except Refusal Progress := do
  let progress ← progress.give setting
  return { progress with config := ← assign progress.config setting value }

def settle (progress : Progress) : Except Refusal Progress :=
  match progress.pending with
  | none => .ok progress
  | some (setting, none) => .error (.missingValue setting)
  | some (setting, some value) => { progress with pending := none }.take setting value

/-- The options that count as given when an unknown argument is met. -/
def shownGiven (progress : Progress) : List Setting :=
  match progress.pending with
  | some (setting, some _) =>
    if progress.given.contains setting then progress.given.filter (· ≠ setting)
    else progress.given ++ [setting]
  | _ => progress.given

def unknownLong (progress : Progress) (name : List Char) : Refusal :=
  let similar := Similarity.nearest? (String.ofList name) (Setting.all.map Setting.long)
  match similar.bind fun long => Setting.ofLong? long.toList with
  | some setting =>
    let given := progress.shownGiven
    .unknownArgument ("--" ++ String.ofList name) (some setting)
      (if given.contains setting then given else given ++ [setting])
  | none => .unknownArgument ("--" ++ String.ofList name) none progress.shownGiven

def begin (progress : Progress) (setting : Setting) (attached : Option String) :
    Except Refusal Progress :=
  match setting.valueName?, attached with
  | some _, some value => do (← progress.settle).take setting value
  | some _, none => do return { ← progress.settle with pending := some (setting, none) }
  | none, some value => .error (.unexpectedValue setting value progress.given)
  | none, none => do (← progress.settle).take setting "true"

def long (progress : Progress) (text : List Char) : Except Refusal Progress :=
  let (name, value) := match cut '=' text with
    | some (name, value) => (name, some (String.ofList value))
    | none => (text, none)
  match Setting.ofLong? name with
  | some setting => progress.begin setting value
  | none => .error (progress.unknownLong name)

def shorts (progress : Progress) : List Char → Except Refusal Progress
  | [] => .ok progress
  | c :: rest =>
    match Setting.ofShort? c with
    | none => .error (.unknownArgument ("-" ++ c.toString) none [])
    | some setting =>
      match setting.valueName?, rest with
      | none, _ => do (← progress.begin setting none).shorts rest
      | some _, [] => progress.begin setting none
      | some _, '=' :: value => progress.begin setting (some (String.ofList value))
      | some _, value => progress.begin setting (some (String.ofList value))

def plain (progress : Progress) (text : List Char) : Except Refusal Progress :=
  match progress.pending with
  | some (setting, none) =>
    .ok { progress with pending := some (setting, some (String.ofList text)) }
  | _ => .error (.unknownArgument (String.ofList text) none [])

/-- Reads all arguments. Nothing may follow the argument `--`. -/
def readArguments (progress : Progress) : List String → Except Refusal Progress
  | [] => progress.settle
  | argument :: rest =>
    match argument.toList with
    | ['-', '-'] =>
      match rest with
      | [] => progress.settle
      | next :: _ => .error (.unknownArgument next none [])
    | '-' :: '-' :: text => do (← progress.long text).readArguments rest
    | '-' :: c :: text => do (← progress.shorts (c :: text)).readArguments rest
    | text => do (← progress.plain text).readArguments rest

def readVariables (environment : List (String × String)) (progress : Progress) :
    List Setting → Except Refusal Progress
  | [] => .ok progress
  | setting :: rest =>
    match setting.envName?.bind fun name => environment.lookup name with
    | some value =>
      if progress.given.contains setting then progress.readVariables environment rest
      else do (← progress.take setting value).readVariables environment rest
    | none => progress.readVariables environment rest

end Progress

/-- The configuration that arguments and variables ask for. `processors` is the default number of
workers. -/
def ofArguments (processors : Nat) (environment : List (String × String))
    (arguments : List String) : Except Refusal Config := do
  let progress : Progress := { config := { workers := processors } }
  let progress ← progress.readArguments arguments
  return (← progress.readVariables environment Setting.all).config

end HttpServer.Config
