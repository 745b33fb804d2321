namespace SmokeSuite

/-- The number `± digits · 10 ^ exponent`. A negative zero keeps its sign. -/
structure Decimal where
  negative : Bool
  digits : Nat
  exponent : Int
  deriving DecidableEq, Inhabited

namespace Decimal

def digitValue (c : Char) : Nat := c.toNat - '0'.toNat

def ofDigits (ds : List Char) : Nat := ds.foldl (fun n c => 10 * n + digitValue c) 0

/-- The power of ten after the exponent mark: an optional sign and at least one digit. -/
def readExponent? : List Char → Option Int
  | '-' :: ds => if !ds.isEmpty && ds.all Char.isDigit then some (-(ofDigits ds : Int)) else none
  | '+' :: ds => if !ds.isEmpty && ds.all Char.isDigit then some (ofDigits ds) else none
  | ds => if !ds.isEmpty && ds.all Char.isDigit then some (ofDigits ds) else none

/-- Reads digits, point and exponent; a digit must stand on one side of the point. -/
def readUnsigned? (s : List Char) : Option (Nat × Int) :=
  let whole := s.takeWhile Char.isDigit
  let rest := s.dropWhile Char.isDigit
  let (part, rest) := match rest with
    | '.' :: r => (r.takeWhile Char.isDigit, r.dropWhile Char.isDigit)
    | r => ([], r)
  if whole.isEmpty && part.isEmpty then none
  else match rest with
    | [] => some (ofDigits (whole ++ part), -(part.length : Int))
    | c :: r =>
      if c == 'e' || c == 'E' then
        (readExponent? r).map fun e => (ofDigits (whole ++ part), e - part.length)
      else none

def read? : List Char → Option Decimal
  | '-' :: s => (readUnsigned? s).map fun (m, e) => ⟨true, m, e⟩
  | '+' :: s => (readUnsigned? s).map fun (m, e) => ⟨false, m, e⟩
  | s => (readUnsigned? s).map fun (m, e) => ⟨false, m, e⟩

/-- Digits with the point in its place; whole numbers have no point. -/
def positional (d : Decimal) : List Char :=
  let ds := Nat.toDigits 10 d.digits
  let body :=
    if 0 ≤ d.exponent then ds ++ List.replicate d.exponent.toNat '0'
    else
      let k := d.exponent.natAbs
      if k < ds.length then ds.take (ds.length - k) ++ '.' :: ds.drop (ds.length - k)
      else '0' :: '.' :: List.replicate (k - ds.length) '0' ++ ds
  if d.negative then '-' :: body else body

end Decimal

end SmokeSuite
