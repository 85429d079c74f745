import HttpServer.Text.Decimal

/-!
The text of a double: the fewest digits that read back as the same double, and of those the
nearest to it.
-/

namespace HttpServer.Double

structure Binary where
  mantissa : Nat
  exponent : Int
deriving DecidableEq, Repr

def isNegative (bits : UInt64) : Bool :=
  bits >>> 63 = 1

def magnitude (bits : UInt64) : Binary :=
  let field := (bits >>> 52).toNat % 2048
  let fraction := bits.toNat % Nat.pow 2 52
  if field = 0 then ⟨fraction, -1074⟩ else ⟨Nat.pow 2 52 + fraction, field - 1075⟩

structure Ratio where
  numerator : Nat
  denominator : Nat

def ratio (mantissa : Nat) (exponent : Int) : Ratio :=
  if 0 ≤ exponent then ⟨mantissa * Nat.pow 2 exponent.toNat, 1⟩
  else ⟨mantissa, Nat.pow 2 (-exponent).toNat⟩

/-- The numbers that round to a double: those between `low` and `high`, with the ends if
`closed`. All are counted in the unit of `denominator`. -/
structure Interval where
  low : Nat
  value : Nat
  high : Nat
  denominator : Nat
  closed : Bool

def interval (number : Binary) : Interval :=
  let narrow := number.mantissa = Nat.pow 2 52 && -1074 < number.exponent
  let unit := ratio 1 (number.exponent - 2)
  { low := (number.mantissa * 4 - if narrow then 1 else 2) * unit.numerator
    value := number.mantissa * 4 * unit.numerator
    high := (number.mantissa * 4 + 2) * unit.numerator
    denominator := unit.denominator
    closed := number.mantissa % 2 = 0 }

def Interval.contains (range : Interval) (number : Ratio) : Bool :=
  let value := number.numerator * range.denominator
  let low := range.low * number.denominator
  let high := range.high * number.denominator
  if range.closed then low ≤ value && value ≤ high else low < value && value < high

structure Decimal where
  digits : Nat
  exponent : Int
deriving DecidableEq, Repr

def Decimal.ratio (number : Decimal) : Ratio :=
  if 0 ≤ number.exponent then ⟨number.digits * Nat.pow 10 number.exponent.toNat, 1⟩
  else ⟨number.digits, Nat.pow 10 (-number.exponent).toNat⟩

/-- The nearest multiple of `10 ^ exponent` that reads back. An exact tie goes to the even
digit. -/
def onGrid? (range : Interval) (exponent : Int) : Option Decimal :=
  let step := (Decimal.mk 1 exponent).ratio
  let below := range.value * step.denominator / (range.denominator * step.numerator)
  let fits (digits : Nat) : Bool :=
    range.contains ⟨digits * step.numerator, step.denominator⟩
  match fits below, fits (below + 1) with
  | false, false => none
  | true, false => some ⟨below, exponent⟩
  | false, true => some ⟨below + 1, exponent⟩
  | true, true =>
    let twice := 2 * range.value * step.denominator
    let middle := (2 * below + 1) * (range.denominator * step.numerator)
    if twice < middle || (twice = middle && below % 2 = 0) then some ⟨below, exponent⟩
    else some ⟨below + 1, exponent⟩

def onGrids (range : Interval) (exponent : Int) : Nat → Decimal
  | 0 => ⟨0, exponent⟩
  | tries + 1 => (onGrid? range exponent).getD (onGrids range (exponent - 1) tries)

def Decimal.normalizeFrom (digits : Nat) (exponent : Int) : Nat → Decimal
  | 0 => ⟨digits, exponent⟩
  | tries + 1 =>
    if digits % 10 = 0 then normalizeFrom (digits / 10) (exponent + 1) tries
    else ⟨digits, exponent⟩

def maxDigits : Nat := 310

def leadingExponent (numerator denominator : Nat) : Int :=
  if denominator ≤ numerator then ((digitsOnto [] (numerator / denominator)).length : Int) - 1
  else
    let scaled := (numerator * Nat.pow 10 (maxDigits + 20)) / denominator
    ((digitsOnto [] scaled).length : Int) - 1 - (maxDigits + 20 : Nat)

def shortest (number : Binary) : Decimal :=
  let range := interval number
  let decimal := onGrids range (leadingExponent range.value range.denominator + 1) 20
  Decimal.normalizeFrom decimal.digits decimal.exponent 20

/-- Positional from `0.00001` below `10 ^ 16`, with a point in every case; scientific beyond. -/
def Decimal.text (number : Decimal) : List Char :=
  let digits := digitsOnto [] number.digits
  let point : Int := digits.length + number.exponent
  if 0 ≤ number.exponent && point ≤ 16 then
    digits ++ List.replicate number.exponent.toNat '0' ++ ['.', '0']
  else if 0 < point && point ≤ 16 then
    digits.take point.toNat ++ '.' :: digits.drop point.toNat
  else if -5 < point && point ≤ 0 then
    '0' :: '.' :: (List.replicate (-point).toNat '0' ++ digits)
  else
    let fraction := match digits with
      | [] => []
      | [digit] => [digit]
      | digit :: more => digit :: '.' :: more
    let exponent := point - 1
    fraction ++ 'e' :: (if exponent < 0 then '-' else '+') ::
      digitsOnto [] exponent.natAbs

def text (bits : UInt64) : String :=
  let number := magnitude bits
  let sign := if isNegative bits then ['-'] else []
  if number.mantissa = 0 then String.ofList (sign ++ ['0', '.', '0'])
  else String.ofList (sign ++ (shortest number).text)

end HttpServer.Double
