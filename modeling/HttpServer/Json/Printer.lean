import HttpServer.Json.Basic
import HttpServer.Json.Double
import HttpServer.Text.Quoted

/-!
The compact text of a JSON document: no blanks, and of the characters outside controls only the
quote and the backslash escaped.
-/

namespace HttpServer.Json

def escapeChar (c : Char) : List Char :=
  if c = '"' then ['\\', '"']
  else if c = '\\' then ['\\', '\\']
  else if c.toNat = 0x08 then ['\\', 'b']
  else if c.toNat = 0x0C then ['\\', 'f']
  else if c = '\n' then ['\\', 'n']
  else if c = '\r' then ['\\', 'r']
  else if c = '\t' then ['\\', 't']
  else if c.toNat < 0x20 then
    ['\\', 'u', '0', '0', Nat.digitChar (c.toNat / 16), Nat.digitChar (c.toNat % 16)]
  else [c]

def quotedText (text : String) : String :=
  String.ofList ('"' :: (text.toList.flatMap escapeChar ++ ['"']))

def Number.text : Number → String
  | .natural value => decimal value
  | .negative magnitude => "-" ++ decimal magnitude
  | .double bits => Double.text bits

mutual

def renderOnto (before : String) : Json → String
  | .null => before ++ "null"
  | .bool true => before ++ "true"
  | .bool false => before ++ "false"
  | .number value => before ++ value.text
  | .string text => before ++ quotedText text
  | .array items => renderItems (before ++ "[") true items ++ "]"
  | .object members => renderMembers (before ++ "\x7b") true members ++ "\x7d"

def renderItems (before : String) (first : Bool) : List Json → String
  | [] => before
  | item :: rest =>
    renderItems (renderOnto (if first then before else before ++ ",") item) false rest

def renderMembers (before : String) (first : Bool) : List (String × Json) → String
  | [] => before
  | (key, value) :: rest =>
    let opened := if first then before else before ++ ","
    renderMembers (renderOnto (opened ++ quotedText key ++ ":") value) false rest

end

def render (document : Json) : String :=
  renderOnto "" document

end HttpServer.Json
