import HttpServer.Glob
import HttpServer.Text.Pieces

/-!
Route patterns. A pattern without a star fits the path that is its own text. In a pattern with
stars the segments are compared one by one: a segment that is a star fits any one segment, or, at
the end, one or more; a segment that holds stars fits as a glob.
-/

namespace HttpServer

structure RoutePattern where
  text : String
deriving DecidableEq, Repr

namespace RoutePattern

inductive Segment
  | literal (text : List Char)
  | glob (text : List Char)
  | any
deriving DecidableEq, Repr

def Segment.ofText (text : List Char) : Segment :=
  if text = ['*'] then .any else if text.contains '*' then .glob text else .literal text

def Segment.covers (segment : Segment) (part : List Char) : Bool :=
  match segment with
  | .literal text => text = part
  | .glob text => Glob.isMatch '*' text part
  | .any => true

def dropSlash : List Char → List Char
  | '/' :: rest => rest
  | path => path

def split (path : List Char) : List (List Char) :=
  pieces '/' (dropSlash path)

def segments (pattern : RoutePattern) : List Segment :=
  (split pattern.text.toList).map Segment.ofText

def isWildcard (pattern : RoutePattern) : Bool :=
  pattern.text.toList.contains '*'

def coverAll : List Segment → List (List Char) → Bool
  | [], [] => true
  | [.any], _ :: _ => true
  | segment :: segments, part :: parts => segment.covers part && coverAll segments parts
  | _, _ => false

def fits (pattern : RoutePattern) (path : String) : Bool :=
  pattern.text = path ||
    (pattern.isWildcard && coverAll pattern.segments (split path.toList))

end RoutePattern

end HttpServer
