import SmokeSuite.Decimal.BinaryFormat

namespace SmokeSuite

/-- A finite double `± mantissa · 2 ^ exponent`. Either the mantissa has 53 bits, or the exponent is
the least one. -/
structure Binary64 where
  negative : Bool
  mantissa : Nat
  exponent : Int
  deriving DecidableEq

namespace Binary64

open BinaryFormat (roundQuotient scale)

/-- The nearest double to a decimal; `none` above the largest one. -/
def ofDecimal (d : Decimal) : Option Binary64 :=
  (BinaryFormat.double.ofDecimal? d).map fun (m, e) => ⟨d.negative, m, e⟩

def gridPoint (c : Nat) (k : Int) : Nat × Nat :=
  if 0 ≤ k then (c * Nat.pow 10 k.toNat, 1) else (c, Nat.pow 10 k.natAbs)

/-- The interval of numbers that round to a double: its ends, in units of a quarter of the last
place, and whether they belong to it. The gap below a power of two is half as wide. -/
def rounding (b : Binary64) : Nat × Nat × Bool :=
  let below := if b.mantissa = Nat.pow 2 52 && b.exponent > BinaryFormat.double.minExponent then 1 else 2
  (4 * b.mantissa - below, 4 * b.mantissa + 2, b.mantissa % 2 == 0)

def readsBack (b : Binary64) (num den : Nat) : Bool :=
  let (lo, hi, ends) := b.rounding
  let (n, d) := scale num den (b.exponent - 2)
  if ends then lo * d ≤ n && n ≤ hi * d else lo * d < n && n < hi * d

def onGrid (b : Binary64) (k : Int) : Option Nat :=
  let (vn, vd) := scale b.mantissa 1 (-b.exponent)
  let (gn, gd) := gridPoint 1 k
  let c := vn * gd / (vd * gn)
  let near (c : Nat) : Bool := let (n, d) := gridPoint c k; b.readsBack n d
  match near c, near (c + 1) with
  | true, true => some (roundQuotient (vn * gd) (vd * gn))
  | true, false => some c
  | false, true => some (c + 1)
  | false, false => none

def shortestFrom (b : Binary64) (k : Int) : Nat → Decimal
  | 0 => ⟨b.negative, 0, 0⟩
  | fuel + 1 =>
    match b.onGrid k with
    | some c => if c = 0 then shortestFrom b (k - 1) fuel else ⟨b.negative, c, k⟩
    | none => shortestFrom b (k - 1) fuel

def strip : Nat → Decimal → Decimal
  | 0, d => d
  | fuel + 1, d =>
    if d.digits ≠ 0 && d.digits % 10 = 0 then strip fuel ⟨d.negative, d.digits / 10, d.exponent + 1⟩
    else d

def shortest (b : Binary64) : Decimal :=
  if b.mantissa = 0 then ⟨b.negative, 0, 0⟩
  else
    let (n, d) := scale b.mantissa 1 (-b.exponent)
    let top : Int :=
      if n / d = 0 then 1 - ((Nat.toDigits 10 (d / n)).length : Int)
      else ((Nat.toDigits 10 (n / d)).length : Int)
    strip 40 (shortestFrom b (top + 1) 40)

/-- Digits with the point in its place, and at least one digit after the point. -/
def text (b : Binary64) : List Char :=
  let s := b.shortest.positional
  if s.contains '.' then s else s ++ ['.', '0']

end Binary64

end SmokeSuite
