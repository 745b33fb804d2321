import SmokeSuite.Decimal.Basic

namespace SmokeSuite

/-- Numbers `mantissa · 2 ^ exponent`. Either the mantissa has all its bits, or the exponent is the least
one. -/
structure BinaryFormat where
  bits : Nat
  minExponent : Int
  maxExponent : Int
  deriving DecidableEq, Inhabited

namespace BinaryFormat

def double : BinaryFormat := ⟨53, -1074, 971⟩

def extended : BinaryFormat := ⟨64, -16445, 16320⟩

/-- The quotient rounded to the nearest whole number, a half to the even neighbour. -/
def roundQuotient (num den : Nat) : Nat :=
  let q := num / den
  let r := num % den
  if 2 * r > den || (2 * r == den && q % 2 == 1) then q + 1 else q

def scale (num den : Nat) (e : Int) : Nat × Nat :=
  if 0 ≤ e then (num, den * Nat.pow 2 e.toNat) else (num * Nat.pow 2 e.natAbs, den)

/-- Mantissa and exponent of the number nearest to the quotient of two positive numbers; `none` above the
largest one. -/
def ofQuotient (f : BinaryFormat) (num den : Nat) : Option (Nat × Int) :=
  let low := max ((Nat.log2 num : Int) - Nat.log2 den - f.bits) f.minExponent
  let (n, d) := scale num den low
  let e := if n / d < Nat.pow 2 f.bits then low else low + 1
  let (n, d) := scale num den e
  let m := roundQuotient n d
  let (m, e) := if m = Nat.pow 2 f.bits then (Nat.pow 2 (f.bits - 1), e + 1) else (m, e)
  if e > f.maxExponent then none else some (m, e)

/-- The number nearest to a decimal. Powers of ten far out of range are not multiplied out. -/
def ofDecimal? (f : BinaryFormat) (d : Decimal) : Option (Nat × Int) :=
  let size : Int := (Nat.toDigits 10 d.digits).length + d.exponent
  if d.digits = 0 || size < f.minExponent / 3 - 20 then some (0, f.minExponent)
  else if size > (f.maxExponent + f.bits) / 3 + 20 then none
  else if 0 ≤ d.exponent then f.ofQuotient (d.digits * Nat.pow 10 d.exponent.toNat) 1
  else f.ofQuotient d.digits (Nat.pow 10 d.exponent.natAbs)

end BinaryFormat

end SmokeSuite
