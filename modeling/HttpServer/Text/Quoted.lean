import HttpServer.Text.Unprintable

/-!
A text between double quotes, with everything that a terminal would not show as itself written as
an escape.
-/

namespace HttpServer.Text

def hexDigitsOnto (rest : List Char) (value : Nat) : List Char :=
  if value < 16 then Nat.digitChar value :: rest
  else hexDigitsOnto (Nat.digitChar (value % 16) :: rest) (value / 16)

def isShown (c : Char) : Bool :=
  if c.toNat < 0x7F then 0x20 ≤ c.toNat
  else !inRanges graphemeExtend c && !inRanges unprintable c

def quoteChar (c : Char) : List Char :=
  if c = '"' then ['\\', '"']
  else if c = '\\' then ['\\', '\\']
  else if c = '\n' then ['\\', 'n']
  else if c = '\r' then ['\\', 'r']
  else if c = '\t' then ['\\', 't']
  else if c.toNat = 0 then ['\\', '0']
  else if isShown c then [c]
  else '\\' :: 'u' :: '{' :: hexDigitsOnto ['}'] c.toNat

def quoted (text : String) : String :=
  String.ofList ('"' :: (text.toList.flatMap quoteChar ++ ['"']))

end HttpServer.Text
