import SmokeSuite.Decimal.BinaryFormat
import SmokeSuite.Printing.Layout
import SmokeSuite.Text.Integer

namespace SmokeSuite

/-- A number with a point, or one that is none. -/
inductive Real where
  | finite (negative : Bool) (mantissa : Nat) (exponent : Int)
  | infinite (negative : Bool)
  | notNumber (negative : Bool)
  deriving DecidableEq, Inhabited

namespace Real

open BinaryFormat (roundQuotient scale)

def zero : Real := .finite false 0 0

def fixed (m : Nat) (e : Int) (places : Nat) : Octets :=
  let (n, d) := scale m 1 (-e)
  let ds := Nat.toDigits 10 (roundQuotient (n * Nat.pow 10 places) d)
  let ds := List.replicate (places + 1 - ds.length) '0' ++ ds
  let before := ds.take (ds.length - places)
  if places = 0 then before else before ++ '.' :: ds.drop (ds.length - places)

/-- The decimal power of the first digit when a size is rounded to so many digits behind it, and the
digits. -/
def scientific (m : Nat) (e : Int) (places : Nat) : Int × Octets :=
  if m = 0 then (0, List.replicate (places + 1) '0')
  else
    let (n, d) := scale m 1 (-e)
    let power : Int :=
      if d ≤ n then ((Nat.toDigits 10 (n / d)).length : Int) - 1
      else
        let k := (Nat.toDigits 10 (d / n)).length
        if n * Nat.pow 10 (k - 1) ≥ d then -((k : Int) - 1) else -(k : Int)
    let shift := (places : Int) - power
    let rounded := if 0 ≤ shift then roundQuotient (n * Nat.pow 10 shift.toNat) d
      else roundQuotient n (d * Nat.pow 10 shift.natAbs)
    let ds := Nat.toDigits 10 rounded
    if ds.length > places + 1 then (power + 1, ds.take (places + 1)) else (power, ds)

def exponential (power : Int) (ds : Octets) : Octets :=
  let p := Nat.toDigits 10 power.natAbs
  let p := if p.length < 2 then '0' :: p else p
  ds.take 1 ++ (if ds.length > 1 then '.' :: ds.drop 1 else []) ++
    ['e', if power < 0 then '-' else '+'] ++ p

/-- Takes zeros away at the end behind a point, and the point if nothing is left behind it. -/
def trimZeros (s : Octets) : Octets :=
  if !s.contains '.' then s
  else
    let r := s.reverse.dropWhile (· == '0')
    (if r.head? == some '.' then r.drop 1 else r).reverse

def general (m : Nat) (e : Int) (digits : Nat) (keepsZeros : Bool) : Octets :=
  let digits := max digits 1
  let (power, ds) := scientific m e (digits - 1)
  if -4 ≤ power && power < digits then
    let s := fixed m e (digits - 1 - power).toNat
    if keepsZeros then s else trimZeros s
  else
    let ds := if keepsZeros then ds else
      ds.take 1 ++ ((ds.drop 1).reverse.dropWhile (· == '0')).reverse
    exponential power ds

/-- The hexadecimal digits of a size, of which so many stand behind the point if that is asked for, and
the power of two. One digit stands before the point. -/
def hexadecimal (f : BinaryFormat) (m : Nat) (e : Int) (places : Option Nat) : Octets × Octets :=
  let before := (f.bits - 1) % 4 + 1
  let all := (f.bits - before) / 4
  let power : Int := if m = 0 then 0 else e + 4 * all
  let (places, trims, more) := match places with
    | some p => (min p all, false, p - all)
    | none => (all, true, 0)
  let rounded := roundQuotient m (Nat.pow 16 (all - places))
  let (rounded, power) := if rounded ≥ Nat.pow 16 (places + 1) then (Nat.pow 16 places, power + 4)
    else (rounded, power)
  let ds := Nat.toDigits 16 (rounded % Nat.pow 16 places)
  let ds := if places = 0 then [] else List.replicate (places - ds.length) '0' ++ ds
  let ds := if trims then (ds.reverse.dropWhile (· == '0')).reverse
    else ds ++ List.replicate more '0'
  (Nat.toDigits 16 (rounded / Nat.pow 16 places) ++ (if ds.isEmpty then [] else '.' :: ds),
    ['p', if power < 0 then '-' else '+'] ++ Nat.toDigits 10 power.natAbs)

/-- Digits, perhaps with a point among them: the digits before it, those behind it, and what follows. -/
def digitsOf (isDigit : Char → Bool) (t : Octets) : Octets × Octets × Octets :=
  let before := t.takeWhile isDigit
  match t.drop before.length with
  | '.' :: r =>
    let ds := r.takeWhile isDigit
    if before.isEmpty && ds.isEmpty then ([], [], t) else (before, ds, r.drop ds.length)
  | r => (before, [], r)

def powerOf (letter : Char) (t : Octets) : Int × Octets :=
  match t with
  | c :: r =>
    let n := Integer.read 10 r
    if c.toLower == letter && n.isThere && !(r.head?.any Integer.isBlank) then (n.exact, n.rest) else (0, t)
  | [] => (0, [])

def readHexadecimal? (f : BinaryFormat) (negative : Bool) (t : Octets) : Option (Real × Octets) :=
  let (before, after, t) := digitsOf (Integer.isDigitOf 16) t
  if before.isEmpty && after.isEmpty then none
  else
    let (power, t) := powerOf 'p' t
    let n := (before ++ after).foldl (fun n d => 16 * n + (Integer.digit? 16 d).getD 0) 0
    let power := max (-40000) (min 40000 (power - 4 * after.length))
    let (num, den) := if 0 ≤ power then (n * Nat.pow 2 power.toNat, 1) else (n, Nat.pow 2 power.natAbs)
    if n = 0 then some (.finite negative 0 0, t)
    else match f.ofQuotient num den with
      | some (m, e) => some (.finite negative m e, t)
      | none => some (.infinite negative, t)

def read? (f : BinaryFormat) (s : Octets) : Option (Real × Octets) :=
  let t := s.dropWhile Integer.isBlank
  let (negative, t) := match t with
    | '-' :: r => (true, r)
    | '+' :: r => (false, r)
    | r => (false, r)
  let lower := t.map Char.toLower
  let marked : Option (Real × Octets) := match t with
    | '0' :: x :: r => if x.toLower == 'x' then readHexadecimal? f negative r else none
    | _ => none
  if "infinity".toList.isPrefixOf lower then some (.infinite negative, t.drop 8)
  else if "inf".toList.isPrefixOf lower then some (.infinite negative, t.drop 3)
  else if "nan".toList.isPrefixOf lower then some (.notNumber negative, t.drop 3)
  else if marked.isSome then marked
  else
    let (before, after, t) := digitsOf Char.isDigit t
    if before.isEmpty && after.isEmpty then none
    else
      let (power, t) := powerOf 'e' t
      let d : Decimal := ⟨negative, Decimal.ofDigits (before ++ after), power - after.length⟩
      match f.ofDecimal? d with
      | some (m, e) => some (.finite negative m e, t)
      | none => some (.infinite negative, t)

def ofNat (f : BinaryFormat) (n : Nat) : Real :=
  match f.ofDecimal? ⟨false, n, 0⟩ with
  | some (m, e) => .finite false m e
  | none => .infinite false

def text (f : BinaryFormat) (l : Layout) (letter : Char) (r : Real) : Octets :=
  let places := l.precision.getD 6
  let raised (s : Octets) : Octets := if letter.isUpper then s.map Char.toUpper else s
  match r with
  | .infinite negative => l.pad (l.sign negative ++ raised "inf".toList)
  | .notNumber negative => l.pad (l.sign negative ++ raised "nan".toList)
  | .finite negative m e =>
    let sign := l.sign negative
    match letter.toLower with
    | 'e' =>
      let (power, ds) := scientific m e places
      l.fill l.zeros sign [] (raised (exponential power ds))
    | 'f' => l.fill l.zeros sign [] (fixed m e places)
    | 'g' => l.fill l.zeros sign [] (raised (general m e places l.alternate))
    | _ =>
      let (ds, power) := hexadecimal f m e l.precision
      l.fill l.zeros sign (raised ['0', 'x']) (raised (ds ++ power))

end Real

end SmokeSuite
