import HttpServer.Tls.Curve
import HttpServer.Tls.Sha512

/-!
The curve `y² - x² = 1 + d x² y²` modulo `2 ^ 255 - 19`, and the public keys of its signature
scheme.
-/

namespace HttpServer.Tls.Edwards

open ModularArithmetic

def prime : Nat := Nat.pow 2 255 - 19

def d : Nat :=
  subtract prime 0 (121665 * inverse prime 121666)

/-- The law of addition has no exceptions. -/
def add (left right : Nat × Nat) : Nat × Nat :=
  let (x₁, y₁) := left
  let (x₂, y₂) := right
  let xs := x₁ * x₂ % prime
  let ys := y₁ * y₂ % prime
  let skew := d * xs % prime * ys % prime
  let below := (1 + skew) % prime
  let above := subtract prime 1 skew
  let inverted := inverse prime (below * above % prime)
  let x := (x₁ * y₂ + x₂ * y₁) % prime * above % prime * inverted % prime
  let y := (ys + xs) % prime * below % prime * inverted % prime
  (x, y)

def base : Nat × Nat :=
  (15112221349535400772501151409588531511454012693041857206046113283949847762202,
    46316835694926478169428394003475163141307993866256225615783033603165251855960)

def multiple (factor : Nat) : Nat × Nat :=
  multiplyWithin add (0, 1) base factor 256

def seedSize : Nat := 32

def secret (seed : Bytes) : Nat :=
  let value := Der.number ((Sha512.hash seed).take seedSize).reverse
  value % Nat.pow 2 254 / 8 * 8 + Nat.pow 2 254

def publicKey (seed : Bytes) : Bytes :=
  let (x, y) := multiple (secret seed)
  (Der.numberBytes seedSize (y + x % 2 * Nat.pow 2 255)).reverse

end HttpServer.Tls.Edwards
