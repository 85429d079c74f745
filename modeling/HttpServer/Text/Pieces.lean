/-!
Cutting a sequence at a separator: at its first occurrence (`cut`), or at all of them (`pieces`);
and the lines of a text.
-/

namespace HttpServer

variable {α : Type} [DecidableEq α]

def cut (mark : α) (items : List α) : Option (List α × List α) :=
  match items.span (· ≠ mark) with
  | (_, []) => none
  | (before, _ :: after) => some (before, after)

def addToPieces (mark : α) (item : α) : List (List α) → List (List α)
  | [] => [[item]]
  | piece :: more => if item = mark then [] :: piece :: more else (item :: piece) :: more

/-- The pieces between the marks: one more than there are marks. -/
def pieces (mark : α) (items : List α) : List (List α) :=
  items.foldr (addToPieces mark) [[]]

def dropLastIf (mark : α) (items : List α) : List α :=
  if items.getLast? = some mark then items.dropLast else items

def linesOfPieces : List (List Char) → List (List Char)
  | [] => []
  | [last] => if last.isEmpty then [] else [last]
  | piece :: more => dropLastIf '\r' piece :: linesOfPieces more

def linesOf (text : List Char) : List (List Char) :=
  linesOfPieces (pieces '\n' text)

end HttpServer
