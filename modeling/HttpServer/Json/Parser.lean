import HttpServer.Json.Basic
import HttpServer.Text.Decimal
import HttpServer.Text.Utf8

/-!
Reading a JSON document from bytes. Every reader takes the bytes that are left and returns a value
with the bytes behind it, or a fault with the bytes that were left when it was noticed, so that
the fault can be shown with its line and column.
-/

namespace HttpServer.Json

inductive Reason
  | endInValue
  | endInArray
  | endInObject
  | endInString
  | expectedValue
  | expectedWord
  | expectedColon
  | expectedArrayCommaOrEnd
  | expectedObjectCommaOrEnd
  | keyNotString
  | trailingComma
  | trailingCharacters
  | invalidNumber
  | numberOutOfRange
  | invalidEscape
  | controlCharacter
  | loneSurrogate
  | unfinishedSurrogatePair
  | invalidText
  | tooDeep
deriving DecidableEq, Repr

def Reason.message : Reason → String
  | .endInValue => "EOF while parsing a value"
  | .endInArray => "EOF while parsing a list"
  | .endInObject => "EOF while parsing an object"
  | .endInString => "EOF while parsing a string"
  | .expectedValue => "expected value"
  | .expectedWord => "expected ident"
  | .expectedColon => "expected `:`"
  | .expectedArrayCommaOrEnd => "expected `,` or `]`"
  | .expectedObjectCommaOrEnd => "expected `,` or `\x7d`"
  | .keyNotString => "key must be a string"
  | .trailingComma => "trailing comma"
  | .trailingCharacters => "trailing characters"
  | .invalidNumber => "invalid number"
  | .numberOutOfRange => "number out of range"
  | .invalidEscape => "invalid escape"
  | .controlCharacter => "control character (\\u0000-\\u001F) found while parsing a string"
  | .loneSurrogate => "lone leading surrogate in hex escape"
  | .unfinishedSurrogatePair => "unexpected end of hex escape"
  | .invalidText => "invalid unicode code point"
  | .tooDeep => "recursion limit exceeded"

structure Fault where
  reason : Reason
  rest : Bytes
deriving DecidableEq, Repr

def faultAt (reason : Reason) (rest : Bytes) : Fault :=
  ⟨reason, rest.drop 1⟩

def isBlank (byte : UInt8) : Bool :=
  byte = 0x20 || byte = 0x0A || byte = 0x09 || byte = 0x0D

def skipBlanks (rest : Bytes) : Bytes :=
  rest.dropWhile isBlank

def isDigit (byte : UInt8) : Bool :=
  0x30 ≤ byte && byte ≤ 0x39

def readWord (value : Json) : Bytes → Bytes → Except Fault (Json × Bytes)
  | [], rest => .ok (value, rest)
  | _ :: _, [] => .error ⟨.endInValue, []⟩
  | expected :: more, byte :: rest =>
    if byte = expected then readWord value more rest else .error ⟨.expectedWord, rest⟩

/-! ### Strings -/

def hexValue? (byte : UInt8) : Option Nat :=
  if isDigit byte then some (byte.toNat - 0x30)
  else if 0x41 ≤ byte && byte ≤ 0x46 then some (byte.toNat - 0x41 + 10)
  else if 0x61 ≤ byte && byte ≤ 0x66 then some (byte.toNat - 0x61 + 10)
  else none

def hexUnit? : Bytes → Option Nat
  | [] => some 0
  | byte :: before => do return (← hexUnit? before) * 16 + (← hexValue? byte)

def escaped? (byte : UInt8) : Option UInt8 :=
  if byte = 0x22 || byte = 0x5C || byte = 0x2F then some byte
  else if byte = 0x62 then some 0x08
  else if byte = 0x66 then some 0x0C
  else if byte = 0x6E then some 0x0A
  else if byte = 0x72 then some 0x0D
  else if byte = 0x74 then some 0x09
  else none

/-- Where a string reader stands. `lead` is the first half of a surrogate pair. -/
inductive StringState
  | plain
  | escape
  | unit (digits : Bytes) (lead : Option Nat)
  | secondEscape (lead : Nat)
  | secondUnit (lead : Nat)
deriving DecidableEq, Repr

def addCode (text : Bytes) (code : Nat) : Bytes :=
  (String.utf8EncodeChar (Char.ofNat code)).reverse ++ text

/-- What a 16-bit unit of an escape means behind `lead`: bytes of text, or the need for a second
unit. -/
def addUnit (text : Bytes) (lead : Option Nat) (unit : Nat) :
    Except Reason (StringState × Bytes) :=
  match lead with
  | none =>
    if 0xDC00 ≤ unit && unit ≤ 0xDFFF then .error .loneSurrogate
    else if 0xD800 ≤ unit && unit ≤ 0xDBFF then .ok (.secondEscape unit, text)
    else .ok (.plain, addCode text unit)
  | some first =>
    if 0xDC00 ≤ unit && unit ≤ 0xDFFF then
      .ok (.plain, addCode text ((first - 0xD800) * 1024 + (unit - 0xDC00) + 0x10000))
    else .error .loneSurrogate

def stringFrom (state : StringState) (text : Bytes) : Bytes → Except Fault (String × Bytes)
  | [] => .error ⟨.endInString, []⟩
  | byte :: rest =>
    match state with
    | .plain =>
      if byte = 0x22 then
        match Utf8.text? text.reverse with
        | some text => .ok (text, rest)
        | none => .error ⟨.invalidText, byte :: rest⟩
      else if byte = 0x5C then stringFrom .escape text rest
      else if byte < 0x20 then .error ⟨.controlCharacter, rest⟩
      else stringFrom .plain (byte :: text) rest
    | .escape =>
      if byte = 0x75 then stringFrom (.unit [] none) text rest
      else
        match escaped? byte with
        | some meaning => stringFrom .plain (meaning :: text) rest
        | none => .error ⟨.invalidEscape, rest⟩
    | .unit digits lead =>
      if digits.length < 3 then stringFrom (.unit (byte :: digits) lead) text rest
      else
        match hexUnit? (byte :: digits) with
        | none => .error ⟨.invalidEscape, rest⟩
        | some unit =>
          match addUnit text lead unit with
          | .ok (next, text) => stringFrom next text rest
          | .error reason => .error ⟨reason, rest⟩
    | .secondEscape lead =>
      if byte = 0x5C then stringFrom (.secondUnit lead) text rest
      else .error ⟨.unfinishedSurrogatePair, rest⟩
    | .secondUnit lead =>
      if byte = 0x75 then stringFrom (.unit [] (some lead)) text rest
      else .error ⟨.unfinishedSurrogatePair, rest⟩

/-! ### Numbers -/

def takeDigits (significand taken : Nat) : Bytes → Nat × Nat × Bytes
  | [] => (significand, taken, [])
  | byte :: rest =>
    if isDigit byte && significand * 10 + (byte.toNat - 0x30) ≤ maxWord then
      takeDigits (significand * 10 + (byte.toNat - 0x30)) (taken + 1) rest
    else (significand, taken, byte :: rest)

def powerOfTen (exponent : Nat) : Float :=
  Float.ofScientific 1 false exponent

/-- The double `significand * 10 ^ exponent`, computed in double arithmetic; `none` beyond the
greatest double. -/
def scale? (significand : Nat) (exponent : Int) : Option Float :=
  let value := significand.toUInt64.toFloat
  if exponent.natAbs ≤ 308 then
    if 0 ≤ exponent then
      let product := value * powerOfTen exponent.natAbs
      if product.isInf then none else some product
    else some (value / powerOfTen exponent.natAbs)
  else if significand = 0 then some 0
  else if 0 ≤ exponent then none
  else if exponent < -616 then some 0
  else some (value / powerOfTen 308 / powerOfTen (exponent + 308).natAbs)

def ofFloat (positive : Bool) (value : Float) : Json :=
  .number (.double (if positive then value else -value).toBits)

def scaled (positive : Bool) (significand : Nat) (exponent : Int) (rest : Bytes) :
    Except Fault (Json × Bytes) :=
  match scale? significand exponent with
  | some value => .ok (ofFloat positive value, rest)
  | none => .error ⟨.numberOutOfRange, rest⟩

def maxExponent : Nat := 2147483647

def exponentFrom (exponent : Nat) : Bytes → Except Bytes (Nat × Bytes)
  | [] => .ok (exponent, [])
  | byte :: rest =>
    if isDigit byte then
      let next := exponent * 10 + (byte.toNat - 0x30)
      if next ≤ maxExponent then exponentFrom next rest else .error rest
    else .ok (exponent, byte :: rest)

def exponentDigits (positive up : Bool) (significand : Nat) (start : Int) :
    Bytes → Except Fault (Json × Bytes)
  | [] => .error ⟨.endInValue, []⟩
  | byte :: rest =>
    if isDigit byte then
      match exponentFrom (byte.toNat - 0x30) rest with
      | .ok (exponent, rest) =>
        scaled positive significand (if up then start + exponent else start - exponent) rest
      | .error rest =>
        if significand ≠ 0 && up then .error ⟨.numberOutOfRange, rest⟩
        else .ok (ofFloat positive 0, rest.dropWhile isDigit)
    else .error ⟨.invalidNumber, rest⟩

def exponentPart (positive : Bool) (significand : Nat) (start : Int) :
    Bytes → Except Fault (Json × Bytes)
  | [] => scaled positive significand start []
  | byte :: rest =>
    if byte = 0x65 || byte = 0x45 then
      match rest with
      | 0x2B :: rest => exponentDigits positive true significand start rest
      | 0x2D :: rest => exponentDigits positive false significand start rest
      | rest => exponentDigits positive true significand start rest
    else scaled positive significand start (byte :: rest)

/-- The digits behind the point. Those that no longer fit the significand are passed over. -/
def fractionPart (positive : Bool) (significand : Nat) (start : Int) (rest : Bytes) :
    Except Fault (Json × Bytes) :=
  let (significand, taken, after) := takeDigits significand 0 rest
  if (rest.head?.map isDigit).getD false then
    exponentPart positive significand (start - taken) (after.dropWhile isDigit)
  else if rest.isEmpty then .error ⟨.endInValue, []⟩
  else .error (faultAt .invalidNumber rest)

def numberTail (positive : Bool) (significand dropped : Nat) (rest : Bytes) :
    Except Fault (Json × Bytes) :=
  match rest with
  | 0x2E :: rest => fractionPart positive significand dropped rest
  | byte :: _ =>
    if byte = 0x65 || byte = 0x45 then exponentPart positive significand dropped rest
    else integer rest
  | [] => integer []
where
  integer (rest : Bytes) : Except Fault (Json × Bytes) :=
    if 0 < dropped then scaled positive significand dropped rest
    else if positive then .ok (.number (.natural significand), rest)
    else if significand = 0 || Nat.pow 2 63 < significand then
      .ok (ofFloat false significand.toUInt64.toFloat, rest)
    else .ok (.number (.negative significand), rest)

def readNumber (positive : Bool) : Bytes → Except Fault (Json × Bytes)
  | [] => .error ⟨.endInValue, []⟩
  | byte :: rest =>
    if byte = 0x30 then
      if (rest.head?.map isDigit).getD false then .error (faultAt .invalidNumber rest)
      else numberTail positive 0 0 rest
    else if isDigit byte then
      let (significand, _, after) := takeDigits (byte.toNat - 0x30) 1 rest
      let (dropped, after) := after.span isDigit
      numberTail positive significand dropped.length after
    else .error ⟨.invalidNumber, rest⟩

/-! ### Arrays and objects -/

def itemsFrom (item : Bytes → Except Fault (Json × Bytes)) (done : List Json) :
    Nat → Bytes → Except Fault (Json × Bytes)
  | 0, rest => .error ⟨.tooDeep, rest⟩
  | fuel + 1, rest =>
    match skipBlanks rest with
    | [] => .error ⟨.endInArray, []⟩
    | byte :: after =>
      if byte = 0x5D then .ok (.array done.reverse, after)
      else if done.isEmpty then do
        let (value, rest) ← item (byte :: after)
        itemsFrom item (value :: done) fuel rest
      else if byte = 0x2C then
        match skipBlanks after with
        | [] => .error ⟨.endInValue, []⟩
        | next :: rest =>
          if next = 0x5D then .error ⟨.trailingComma, rest⟩
          else do
            let (value, rest) ← item (next :: rest)
            itemsFrom item (value :: done) fuel rest
      else .error ⟨.expectedArrayCommaOrEnd, after⟩

def member (item : Bytes → Except Fault (Json × Bytes)) (rest : Bytes) :
    Except Fault ((String × Json) × Bytes) := do
  let (key, rest) ← stringFrom .plain [] rest
  match skipBlanks rest with
  | [] => throw ⟨.endInObject, []⟩
  | byte :: rest =>
    if byte = 0x3A then
      let (value, rest) ← item rest
      return ((key, value), rest)
    else throw ⟨.expectedColon, rest⟩

def membersFrom (item : Bytes → Except Fault (Json × Bytes)) (first : Bool)
    (done : List (String × Json)) :
    Nat → Bytes → Except Fault (Json × Bytes)
  | 0, rest => .error ⟨.tooDeep, rest⟩
  | fuel + 1, rest =>
    match skipBlanks rest with
    | [] => .error ⟨.endInObject, []⟩
    | byte :: after =>
      if byte = 0x7D then .ok (.object done, after)
      else if first then
        if byte = 0x22 then do
          let ((key, value), rest) ← member item after
          membersFrom item false (addMember key value done) fuel rest
        else .error ⟨.keyNotString, after⟩
      else if byte = 0x2C then
        match skipBlanks after with
        | [] => .error ⟨.endInValue, []⟩
        | next :: rest =>
          if next = 0x22 then do
            let ((key, value), rest) ← member item rest
            membersFrom item false (addMember key value done) fuel rest
          else if next = 0x7D then .error ⟨.trailingComma, rest⟩
          else .error ⟨.keyNotString, rest⟩
      else .error ⟨.expectedObjectCommaOrEnd, after⟩

/-- A value in which brackets and braces may be nested `levels` deep. -/
def valueWithin (fuel : Nat) : Nat → Bytes → Except Fault (Json × Bytes)
  | levels, rest =>
    match skipBlanks rest with
    | [] => .error ⟨.endInValue, []⟩
    | byte :: after =>
      if byte = 0x6E then readWord .null [0x75, 0x6C, 0x6C] after
      else if byte = 0x74 then readWord (.bool true) [0x72, 0x75, 0x65] after
      else if byte = 0x66 then readWord (.bool false) [0x61, 0x6C, 0x73, 0x65] after
      else if byte = 0x2D then readNumber false after
      else if isDigit byte then readNumber true (byte :: after)
      else if byte = 0x22 then do
        let (text, rest) ← stringFrom .plain [] after
        return (.string text, rest)
      else if byte = 0x5B then
        match levels with
        | 0 => .error ⟨.tooDeep, after⟩
        | levels + 1 => itemsFrom (valueWithin fuel levels) [] fuel after
      else if byte = 0x7B then
        match levels with
        | 0 => .error ⟨.tooDeep, after⟩
        | levels + 1 => membersFrom (valueWithin fuel levels) true [] fuel after
      else .error ⟨.expectedValue, after⟩

def maxLevels : Nat := 127

def read (input : Bytes) : Except Fault Json := do
  let (value, rest) ← valueWithin (input.length + 1) maxLevels input
  let rest := skipBlanks rest
  if rest.isEmpty then return value else throw (faultAt .trailingCharacters rest)

/-! ### The place of a fault -/

/-- Line and column of the last byte of `done`: lines count from 1, columns in bytes. -/
def place (done : Bytes) : Nat × Nat :=
  done.foldl
    (fun (spot : Nat × Nat) byte =>
      if byte = 0x0A then (spot.1 + 1, 0) else (spot.1, spot.2 + 1))
    (1, 0)

def Fault.message (fault : Fault) (input : Bytes) : String :=
  let (line, column) := place (input.take (input.length - fault.rest.length))
  fault.reason.message ++ " at line " ++ decimal line ++ " column " ++ decimal column

def parse (input : Bytes) : Except String Json :=
  match read input with
  | .ok document => .ok document
  | .error fault => .error (fault.message input)

end HttpServer.Json
