import HttpServer.Json.Printer
import HttpServer.Proofs.Json.Documents
import HttpServer.Proofs.Text.Decimal
import HttpServer.Proofs.Text.Utf8

/-!
The bytes of the compact text of a document, part by part.
-/

namespace HttpServer.Json

mutual

def written : Json → Bytes
  | .null => [0x6E, 0x75, 0x6C, 0x6C]
  | .bool true => [0x74, 0x72, 0x75, 0x65]
  | .bool false => [0x66, 0x61, 0x6C, 0x73, 0x65]
  | .number value => Utf8.bytes value.text
  | .string text => Utf8.bytes (quotedText text)
  | .array items => 0x5B :: (writtenItems true items ++ [0x5D])
  | .object members => 0x7B :: (writtenMembers true members ++ [0x7D])

def writtenItems (first : Bool) : List Json → Bytes
  | [] => []
  | item :: rest => (if first then [] else [0x2C]) ++ (written item ++ writtenItems false rest)

def writtenMembers (first : Bool) : List (String × Json) → Bytes
  | [] => []
  | (key, value) :: rest =>
    (if first then [] else [0x2C]) ++
      (Utf8.bytes (quotedText key) ++ 0x3A :: (written value ++ writtenMembers false rest))

end

/-! ### The printer -/

theorem bytes_opened (before : String) (first : Bool) :
    Utf8.bytes (if first then before else before ++ ",") =
      Utf8.bytes before ++ if first then [] else [0x2C] := by
  cases first with
  | true => simp
  | false => exact Utf8.bytes_append before ","

mutual

theorem bytes_renderOnto (before : String) :
    (document : Json) → Utf8.bytes (renderOnto before document) =
      Utf8.bytes before ++ document.written
  | .null => Utf8.bytes_append before "null"
  | .bool true => Utf8.bytes_append before "true"
  | .bool false => Utf8.bytes_append before "false"
  | .number value => Utf8.bytes_append before value.text
  | .string text => Utf8.bytes_append before (quotedText text)
  | .array items => by
      have opened : Utf8.bytes (before ++ "[") = Utf8.bytes before ++ [0x5B] :=
        Utf8.bytes_append before "["
      have closed (text : String) : Utf8.bytes (text ++ "]") = Utf8.bytes text ++ [0x5D] :=
        Utf8.bytes_append text "]"
      rw [renderOnto, closed, bytes_renderItems, opened, written]
      simp
  | .object members => by
      have opened : Utf8.bytes (before ++ "\x7b") = Utf8.bytes before ++ [0x7B] :=
        Utf8.bytes_append before "\x7b"
      have closed (text : String) : Utf8.bytes (text ++ "\x7d") = Utf8.bytes text ++ [0x7D] :=
        Utf8.bytes_append text "\x7d"
      rw [renderOnto, closed, bytes_renderMembers, opened, written]
      simp

theorem bytes_renderItems (before : String) (first : Bool) :
    (items : List Json) → Utf8.bytes (renderItems before first items) =
      Utf8.bytes before ++ writtenItems first items
  | [] => by simp [renderItems, writtenItems]
  | item :: rest => by
      rw [renderItems, bytes_renderItems, bytes_renderOnto, bytes_opened, writtenItems]
      simp only [List.append_assoc]

theorem bytes_renderMembers (before : String) (first : Bool) :
    (members : List (String × Json)) → Utf8.bytes (renderMembers before first members) =
      Utf8.bytes before ++ writtenMembers first members
  | [] => by simp [renderMembers, writtenMembers]
  | (key, value) :: rest => by
      have colon (text : String) : Utf8.bytes (text ++ ":") = Utf8.bytes text ++ [0x3A] :=
        Utf8.bytes_append text ":"
      rw [renderMembers, bytes_renderMembers, bytes_renderOnto, colon, Utf8.bytes_append,
        bytes_opened, writtenMembers]
      simp only [List.append_assoc, List.cons_append, List.nil_append]

end

@[simp] theorem bytes_render (document : Json) :
    Utf8.bytes document.render = document.written := by
  rw [render, bytes_renderOnto]
  rfl

end HttpServer.Json
