/-!
Points on the two kinds of elliptic curves whose keys are supported, in affine coordinates modulo
a prime.
-/

namespace HttpServer.Tls

/-! ### Arithmetic modulo a prime -/

namespace ModularArithmetic

def subtract (modulus left right : Nat) : Nat :=
  (left + (modulus - right % modulus)) % modulus

def powerWithin (modulus base exponent : Nat) : Nat → Nat
  | 0 => 1 % modulus
  | bits + 1 =>
    let half := powerWithin modulus base (exponent / 2) bits
    let square := half * half % modulus
    if exponent % 2 = 1 then square * base % modulus else square

def power (modulus base exponent : Nat) : Nat :=
  powerWithin modulus base exponent (Nat.log2 exponent + 1)

def inverse (prime value : Nat) : Nat :=
  power prime value (prime - 2)

end ModularArithmetic

open ModularArithmetic

def multiplyWithin {point : Type} (add : point → point → point) (zero base : point)
    (factor : Nat) : Nat → point
  | 0 => zero
  | bits + 1 =>
    let half := multiplyWithin add zero base (factor / 2) bits
    let double := add half half
    if factor % 2 = 1 then add double base else double

structure Curve where
  prime : Nat
  a : Nat
  b : Nat
  baseX : Nat
  baseY : Nat
  order : Nat
  size : Nat
deriving DecidableEq, Repr

namespace Curve

/-- A point with coordinates, or the neutral point. -/
abbrev Point := Option (Nat × Nat)

def chord (curve : Curve) (x₁ y₁ x₂ slope : Nat) : Nat × Nat :=
  let p := curve.prime
  let x := subtract p (slope * slope) (x₁ + x₂)
  (x, subtract p (slope * subtract p x₁ x) y₁)

def add (curve : Curve) : Point → Point → Point
  | none, right => right
  | left, none => left
  | some (x₁, y₁), some (x₂, y₂) =>
    let p := curve.prime
    if x₁ = x₂ then
      if (y₁ + y₂) % p = 0 then none
      else
        let slope := (3 * x₁ * x₁ + curve.a) * inverse p (2 * y₁ % p) % p
        some (curve.chord x₁ y₁ x₂ slope)
    else
      let slope := subtract p y₂ y₁ * inverse p (subtract p x₂ x₁) % p
      some (curve.chord x₁ y₁ x₂ slope)

def multiple (curve : Curve) (factor : Nat) : Point :=
  multiplyWithin curve.add none (some (curve.baseX, curve.baseY)) factor (8 * curve.size)

def p256 : Curve where
  prime := 0xffffffff00000001000000000000000000000000ffffffffffffffffffffffff
  a := 0xffffffff00000001000000000000000000000000fffffffffffffffffffffffc
  b := 0x5ac635d8aa3a93e7b3ebbd55769886bc651d06b0cc53b0f63bce3c3e27d2604b
  baseX := 0x6b17d1f2e12c4247f8bce6e563a440f277037d812deb33a0f4a13945d898c296
  baseY := 0x4fe342e2fe1a7f9b8ee7eb4a7c0f9e162bce33576b315ececbb6406837bf51f5
  order := 0xffffffff00000000ffffffffffffffffbce6faada7179e84f3b9cac2fc632551
  size := 32

def p384 : Curve where
  prime := Nat.pow 2 384 - Nat.pow 2 128 - Nat.pow 2 96 + Nat.pow 2 32 - 1
  a := Nat.pow 2 384 - Nat.pow 2 128 - Nat.pow 2 96 + Nat.pow 2 32 - 4
  b := 0xb3312fa7e23ee7e4988e056be3f82d19181d9c6efe814112 * Nat.pow 2 192 +
    0x0314088f5013875ac656398d8a2ed19d2a85c8edd3ec2aef
  baseX := 0xaa87ca22be8b05378eb1c71ef320ad746e1d3b628ba79b98 * Nat.pow 2 192 +
    0x59f741e082542a385502f25dbf55296c3a545e3872760ab7
  baseY := 0x3617de4a96262c6f5d9e98bf9292dc29f8f41dbd289a147c * Nat.pow 2 192 +
    0xe9da3113b5f0b8c00a60b1ce1d7e819d7a431d7c90ea0e5f
  order := 0xffffffffffffffffffffffffffffffffffffffffffffffff * Nat.pow 2 192 +
    0xc7634d81f4372ddf581a0db248b0a77aecec196accc52973
  size := 48

end Curve

end HttpServer.Tls
