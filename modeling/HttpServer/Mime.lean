import HttpServer.FilePath

/-!
Content types of static files, by file extension.
-/

namespace HttpServer.Mime

def fallback : String := "application/octet-stream"

def table : List (String × String) := [
  ("html", "text/html"),
  ("htm", "text/html"),
  ("css", "text/css"),
  ("js", "application/javascript"),
  ("json", "application/json"),
  ("xml", "application/xml"),
  ("txt", "text/plain"),
  ("png", "image/png"),
  ("jpg", "image/jpeg"),
  ("jpeg", "image/jpeg"),
  ("gif", "image/gif"),
  ("svg", "image/svg+xml"),
  ("ico", "image/x-icon"),
  ("pdf", "application/pdf"),
  ("zip", "application/zip"),
  ("mp4", "video/mp4"),
  ("mp3", "audio/mpeg"),
  ("wav", "audio/wav"),
  ("wasm", "application/wasm")]

def ofExtension (extension : String) : String :=
  let lower := String.ofList (extension.toList.map Char.toLower)
  match table.find? fun entry => entry.1 = lower with
  | some entry => entry.2
  | none => fallback

def ofPath (path : String) : String :=
  match FilePath.extension? path with
  | some extension => ofExtension extension
  | none => fallback

end HttpServer.Mime
