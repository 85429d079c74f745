/-!
Request methods. A word that names none of the seven known methods is `unknown`.
-/

namespace HttpServer

inductive Method
  | get
  | post
  | put
  | delete
  | head
  | options
  | patch
  | unknown
deriving DecidableEq, Repr, Inhabited

namespace Method

def name : Method → String
  | .get => "GET"
  | .post => "POST"
  | .put => "PUT"
  | .delete => "DELETE"
  | .head => "HEAD"
  | .options => "OPTIONS"
  | .patch => "PATCH"
  | .unknown => "UNKNOWN"

def known : List Method :=
  [.get, .post, .put, .delete, .head, .options, .patch]

def ofWord (word : String) : Method :=
  let upper := String.ofList (word.toList.map Char.toUpper)
  (known.find? fun method => method.name = upper).getD .unknown

end Method

end HttpServer
