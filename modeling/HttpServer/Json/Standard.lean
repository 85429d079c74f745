import HttpServer.Json.Parser
import HttpServer.Json.Printer

/-!
The library that the program runs with.
-/

namespace HttpServer.Json

def Library.standard : Library where
  parse := Json.parse
  render := Json.render

end HttpServer.Json
