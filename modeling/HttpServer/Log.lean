import HttpServer.Text.Pieces

/-!
Log lines and their levels, a log kept in memory, and the form in which lines are forwarded to a
tracing system that knows four levels.
-/

namespace HttpServer.Log

inductive Level
  | debug
  | info
  | warning
  | error
  | fatal
deriving DecidableEq, Repr, Inhabited

namespace Level

def name : Level → String
  | .debug => "debug"
  | .info => "info"
  | .warning => "warning"
  | .error => "error"
  | .fatal => "fatal"

def severity : Level → Nat
  | .debug => 0
  | .info => 1
  | .warning => 2
  | .error => 3
  | .fatal => 4

def all : List Level :=
  [.debug, .info, .warning, .error, .fatal]

def ofName? (text : String) : Option Level :=
  all.find? fun level => level.name = text

def max (left right : Level) : Level :=
  if left.severity < right.severity then right else left

end Level

structure Line where
  level : Level
  message : String
deriving DecidableEq, Repr, Inhabited

def debug (message : String) : Line := ⟨.debug, message⟩
def info (message : String) : Line := ⟨.info, message⟩
def warning (message : String) : Line := ⟨.warning, message⟩
def error (message : String) : Line := ⟨.error, message⟩
def fatal (message : String) : Line := ⟨.fatal, message⟩

def occursIn (part : List Char) : List Char → Bool
  | [] => part.isEmpty
  | c :: rest => part.isPrefixOf (c :: rest) || occursIn part rest

def contains (lines : List Line) (level : Level) (text : String) : Bool :=
  lines.any fun line => line.level = level && occursIn text.toList line.message.toList

def highest? (lines : List Line) : Option Level :=
  lines.foldl (fun highest line => some ((highest.getD line.level).max line.level)) none

/-- A line as a tracing system receives it: `fatal` lines become errors that carry a flag. -/
structure TracingEvent where
  level : String
  message : String
  fatal : Bool
deriving DecidableEq, Repr

def Line.tracing (line : Line) : TracingEvent :=
  match line.level with
  | .debug => ⟨"debug", line.message, false⟩
  | .info => ⟨"info", line.message, false⟩
  | .warning => ⟨"warn", line.message, false⟩
  | .error => ⟨"error", line.message, false⟩
  | .fatal => ⟨"error", line.message, true⟩

end HttpServer.Log
