/-!
An insertion-ordered map from names to texts, used for header fields and for query parameters.
Names are compared exactly. Setting a name that is present keeps its place.
-/

namespace HttpServer

structure Fields where
  entries : List (String × String) := []
deriving DecidableEq, Repr, Inhabited

namespace Fields

def setEntry (name value : String) : List (String × String) → List (String × String)
  | [] => [(name, value)]
  | entry :: rest =>
    if entry.1 = name then (name, value) :: rest else entry :: setEntry name value rest

/-- Takes out the first entry of a name. Its value comes with the other entries. -/
def removeEntry (name : String) :
    List (String × String) → Option String × List (String × String)
  | [] => (none, [])
  | entry :: rest =>
    if entry.1 = name then (some entry.2, rest)
    else
      let (removed, others) := removeEntry name rest
      (removed, entry :: others)

def getEntry? (name : String) : List (String × String) → Option String
  | [] => none
  | entry :: rest => if entry.1 = name then some entry.2 else getEntry? name rest

def set (fields : Fields) (name value : String) : Fields :=
  ⟨setEntry name value fields.entries⟩

def remove (fields : Fields) (name : String) : Option String × Fields :=
  let (removed, others) := removeEntry name fields.entries
  (removed, ⟨others⟩)

def erase (fields : Fields) (name : String) : Fields :=
  (fields.remove name).2

def get? (fields : Fields) (name : String) : Option String :=
  getEntry? name fields.entries

def contains (fields : Fields) (name : String) : Bool :=
  (fields.get? name).isSome

def size (fields : Fields) : Nat :=
  fields.entries.length

def isEmpty (fields : Fields) : Bool :=
  fields.entries.isEmpty

def names (fields : Fields) : List String :=
  fields.entries.map Prod.fst

def sorted (fields : Fields) : List (String × String) :=
  fields.entries.mergeSort fun left right => !decide (right.1 < left.1)

end Fields

end HttpServer
