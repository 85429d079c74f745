import HttpServer.Config.Arguments
import HttpServer.Demo
import HttpServer.Server.Run

/-!
The program as seen from its command line: what it prints, with which status it ends, or that it
goes on to serve.
-/

namespace HttpServer.CommandLine

structure Outcome where
  status : Nat
  output : String := ""
  errors : String := ""
deriving DecidableEq, Repr

inductive Result
  | ended (outcome : Outcome)
  /-- The server waits for connections; `output` was printed before. -/
  | serving (config : Config) (activity : Activity) (output : String)

def alert (text : String) : String :=
  "💥 " ++ text ++ "\n"

def refused (refusal : Config.Refusal) : Outcome :=
  if refusal.isRequest then { status := 0, output := refusal.text }
  else { status := 2, errors := refusal.text }

def unfit (fault : Config.Fault) : Outcome :=
  { status := 2, errors := alert fault.message }

def failed (config : Config) (error : ServerError) : Outcome :=
  { status := 1, output := config.summary, errors := alert ("Error fatal: " ++ error.message) }

def start (json : Json.Library) (system : Activity.System) (now : Nat) (config : Config) :
    Except ServerError Activity :=
  let activity : Activity := { server := Demo.server json config now }
  let identity := if config.https then some (config.cert, config.key) else none
  let started := (activity.start system config.host config.effectivePort identity).1
  match started.lastEnding?.bind RunEnding.error? with
  | some error => .error error
  | none => .ok started

def configure (processors : Nat) (environment : List (String × String))
    (arguments : List String) : Except Outcome Config :=
  match Config.ofArguments processors environment arguments with
  | .error refusal => .error (refused refusal)
  | .ok config =>
    match config.fault? with
    | some fault => .error (unfit fault)
    | none => .ok config

/-- Runs the program until it ends or serves. -/
def run (json : Json.Library) (system : Activity.System) (now processors : Nat)
    (environment : List (String × String)) (arguments : List String) : Result :=
  match configure processors environment arguments with
  | .error outcome => .ended outcome
  | .ok config =>
    match start json system now config with
    | .error error => .ended (failed config error)
    | .ok activity => .serving config activity config.summary

end HttpServer.CommandLine
