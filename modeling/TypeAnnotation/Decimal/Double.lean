/-! # Doubles

A finite double is an integer times a power of two, with a sign.
-/
namespace TypeAnnotation.Decimal

/-- The number `significand * 2 ^ exponent`, or its negative. -/
structure Double where
  negative : Bool
  significand : Nat
  exponent : Int
deriving DecidableEq, Repr

namespace Double

def leastExponent : Int := -1074

def ofFloat? (x : Float) : Option Double :=
  let bits := x.toBits.toNat
  let exponent : Nat := bits / Nat.pow 2 52 % Nat.pow 2 11
  let fraction := bits % Nat.pow 2 52
  let negative := bits / Nat.pow 2 63 = 1
  if exponent = 2047 then none
  else if exponent = 0 then some ⟨negative, fraction, leastExponent⟩
  else some ⟨negative, Nat.pow 2 52 + fraction, leastExponent + exponent - 1⟩

def integer? (d : Double) : Option Int :=
  let unit := Nat.pow 2 (-d.exponent).toNat
  if d.significand % unit = 0 then
    let size : Int := d.significand / unit * Nat.pow 2 d.exponent.toNat
    some (if d.negative then -size else size)
  else none

end Double

end TypeAnnotation.Decimal
