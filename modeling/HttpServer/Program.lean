/-!
How the program calls itself.
-/

namespace HttpServer.Program

def name : String := "hilos_http"
def version : String := "0.1.0"
def about : String := "Servidor HTTP concurrente con pool de workers y TLS opcional"

end HttpServer.Program
