import HttpServer.Text.Pieces

/-!
File paths: their components, joining, and the extension of their last name.
-/

namespace HttpServer.FilePath

def isAbsolute (path : String) : Bool :=
  path.toList.head? = some '/'

/-- An absolute `path` stands for itself, any other is taken below `directory`. -/
def join (directory path : String) : String :=
  if isAbsolute path || directory.isEmpty then path
  else if directory.toList.getLast? = some '/' then directory ++ path
  else directory ++ "/" ++ path

def components (path : String) : List String :=
  ((pieces '/' path.toList).map String.ofList).filter fun name => name ≠ "" && name ≠ "."

def fileName? (path : String) : Option String :=
  match (components path).getLast? with
  | some ".." => none
  | name => name

/-- What follows the last dot of a name, if anything stands before that dot. -/
def nameExtension? (name : String) : Option String :=
  match cut '.' name.toList.reverse with
  | none => none
  | some (_, []) => none
  | some (reversed, _) => some (String.ofList reversed.reverse)

def extension? (path : String) : Option String :=
  (fileName? path).bind nameExtension?

end HttpServer.FilePath
