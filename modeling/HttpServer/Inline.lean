import HttpServer.Handler

/-!
Tasks that are not queued for a worker but run at once by whoever brings them.
-/

namespace HttpServer.Inline

def panicLine (message : String) : Log.Line :=
  Log.error ("Inline task panicked: " ++ message)

/-- The lines that running a task adds to the log, unless its panic goes on to whoever brought
it. -/
def run (ending : Except PanicPayload Unit) : Except PanicPayload (List Log.Line) :=
  match ending with
  | .ok () => .ok []
  | .error payload => payload.told.map fun message => [panicLine message]

end HttpServer.Inline
