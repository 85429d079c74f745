/-!
Numbers in decimal digits: `decimal` writes them, `readNatural` and `readInteger` read them within
limits, and say why a text is refused.
-/

namespace HttpServer

def digitChar (digit : Nat) : Char :=
  Char.ofNat (0x30 + digit)

def digitValue? (c : Char) : Option Nat :=
  if '0' ≤ c && c ≤ '9' then some (c.toNat - 0x30) else none

def digitsOnto (rest : List Char) (value : Nat) : List Char :=
  if value < 10 then digitChar value :: rest
  else digitsOnto (digitChar (value % 10) :: rest) (value / 10)

def decimal (value : Nat) : String :=
  String.ofList (digitsOnto [] value)

def decimalInt : Int → String
  | .ofNat value => decimal value
  | .negSucc value => "-" ++ decimal (value + 1)

inductive NumberFault
  | empty
  | invalidDigit
  | tooLarge
  | tooSmall
deriving DecidableEq, Repr

def NumberFault.message : NumberFault → String
  | .empty => "cannot parse integer from empty string"
  | .invalidDigit => "invalid digit found in string"
  | .tooLarge => "number too large to fit in target type"
  | .tooSmall => "number too small to fit in target type"

def readDigitsFrom (limit : Nat) (beyond : NumberFault) (value : Nat) :
    List Char → Except NumberFault Nat
  | [] => .ok value
  | c :: rest =>
    match digitValue? c with
    | none => .error .invalidDigit
    | some digit =>
      if value * 10 + digit ≤ limit then readDigitsFrom limit beyond (value * 10 + digit) rest
      else .error beyond

def readDigits (limit : Nat) (beyond : NumberFault) : List Char → Except NumberFault Nat
  | [] => .error .invalidDigit
  | digits => readDigitsFrom limit beyond 0 digits

def readNatural (limit : Nat) : List Char → Except NumberFault Nat
  | [] => .error .empty
  | '+' :: digits => readDigits limit .tooLarge digits
  | digits => readDigits limit .tooLarge digits

def readInteger (limit : Nat) : List Char → Except NumberFault Int
  | [] => .error .empty
  | '+' :: digits => (readDigits limit .tooLarge digits).map Int.ofNat
  | '-' :: digits => (readDigits (limit + 1) .tooSmall digits).map fun value => -Int.ofNat value
  | digits => (readDigits limit .tooLarge digits).map Int.ofNat

def maxWord : Nat := 18446744073709551615

end HttpServer
