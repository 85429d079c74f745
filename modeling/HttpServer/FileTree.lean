import HttpServer.FilePath
import HttpServer.Text.Utf8

/-!
A tree of files as data. Paths are followed name by name from the top of the tree, which is also
where relative paths begin, so a path through a missing directory or through a file is refused
even if a later `..` would leave it again.
-/

namespace HttpServer

inductive FileError
  | missing
  | notDirectory
  | isDirectory
  | nameTooLong
  | nulInPath
deriving DecidableEq, Repr

def FileError.message : FileError → String
  | .missing => "No such file or directory (os error 2)"
  | .notDirectory => "Not a directory (os error 20)"
  | .isDirectory => "Is a directory (os error 21)"
  | .nameTooLong => "File name too long (os error 36)"
  | .nulInPath => "file name contained an unexpected NUL byte"

/-- Files and directories by the names on their way from the top. Every directory on the way to
an entry exists too. -/
structure FileTree where
  files : List (List String × Bytes) := []
  directories : List (List String) := []
deriving Inhabited

namespace FileTree

def placeOf (path : String) : List String :=
  (FilePath.components path).foldl
    (fun place name => if name = ".." then place.dropLast else place ++ [name]) []

def addFile (tree : FileTree) (path : String) (content : Bytes) : FileTree :=
  { tree with files := (placeOf path, content) :: tree.files }

def addDirectory (tree : FileTree) (path : String) : FileTree :=
  { tree with directories := placeOf path :: tree.directories }

def content? (tree : FileTree) (place : List String) : Option Bytes :=
  tree.files.lookup place

def isDirectory (tree : FileTree) (place : List String) : Bool :=
  place.isEmpty || tree.directories.any place.isPrefixOf ||
    tree.files.any fun file => place.isPrefixOf file.1 && place.length < file.1.length

def maxName : Nat := 255

def walk (tree : FileTree) (place : List String) : List String → Except FileError (List String)
  | [] => .ok place
  | name :: rest =>
    if (tree.content? place).isSome then .error .notDirectory
    else if name = "" || name = "." then walk tree place rest
    else if name = ".." then walk tree place.dropLast rest
    else if maxName < name.utf8ByteSize then .error .nameTooLong
    else
      let next := place ++ [name]
      if (tree.content? next).isSome || tree.isDirectory next then walk tree next rest
      else .error .missing

def read (tree : FileTree) (path : String) : Except FileError Bytes :=
  if path.toList.contains '\x00' then .error .nulInPath
  else if path = "" then .error .missing
  else do
    let place ← tree.walk [] ((pieces '/' path.toList).map String.ofList)
    match tree.content? place with
    | some content => return content
    | none => throw .isDirectory

end FileTree

end HttpServer
