import SmokeSuite.Text.Octets

namespace SmokeSuite

structure Integer where
  negative : Bool
  size : Nat
  rest : Octets
  isThere : Bool
  deriving DecidableEq, Inhabited

namespace Integer

def minValue : Int := -Int.pow 2 63

def maxValue : Int := Int.pow 2 63 - 1

def exact (n : Integer) : Int := if n.negative then -n.size else n.size

def value (n : Integer) : Int := max minValue (min maxValue n.exact)

def isTooLarge (n : Integer) : Bool := n.exact < minValue || maxValue < n.exact

def unsignedRange : Nat := UInt64.size

/-- The number as one without a sign, where less than nothing counts down from the last one. -/
def unsigned (n : Integer) : Nat :=
  if n.size ≥ unsignedRange then unsignedRange - 1 else (n.exact % unsignedRange).toNat

def isBlank (c : Char) : Bool := c == ' ' || ('\t' ≤ c && c ≤ '\r')

def digit? (base : Nat) (c : Char) : Option Nat :=
  let v := if c.isDigit then c.toNat - '0'.toNat
    else if c.isAlpha then c.toLower.toNat - 'a'.toNat + 10
    else base
  if v < base then some v else none

def isDigitOf (base : Nat) (c : Char) : Bool := (digit? base c).isSome

/-- The base of digits, and the digits without the mark of the base. Base zero stands for the one that
the mark tells, which is ten if there is none. -/
def baseOf (base : Nat) (s : Octets) : Nat × Octets :=
  let marked (letter : Char) (of : Nat) : Option (Nat × Octets) :=
    match s with
    | '0' :: l :: d :: r =>
      if l.toLower == letter && isDigitOf of d && (base == 0 || base == of) then some (of, d :: r)
      else none
    | _ => none
  match marked 'x' 16, marked 'b' 2 with
  | some found, _ => found
  | none, some found => found
  | none, none => (if base != 0 then base else if s.head? == some '0' then 8 else 10, s)

def read (base : Nat) (s : Octets) : Integer :=
  let t := s.dropWhile isBlank
  let (negative, t) := match t with
    | '-' :: r => (true, r)
    | '+' :: r => (false, r)
    | r => (false, r)
  let (base, t) := baseOf base t
  let ds := t.takeWhile (isDigitOf base)
  if ds.isEmpty then { negative := false, size := 0, rest := s, isThere := false }
  else
    { negative
      size := ds.foldl (fun n d => base * n + (digit? base d).getD 0) 0
      rest := t.drop ds.length
      isThere := true }

/-- The number that a text is as a whole, with blanks around it. An empty text is zero if the base is
left open. -/
def ofText? (base : Nat) (s : Octets) : Option Int :=
  let n := read base s
  let rest := if n.isThere then n.rest else s
  if n.isTooLarge || !rest.all isBlank || (!n.isThere && base != 0) then none else some n.value

def maxCount : Int := Int.pow 2 31 - 1

def count? (s : Octets) : Option Nat :=
  match ofText? 10 s with
  | some n => if 0 ≤ n && n ≤ maxCount then some n.toNat else none
  | none => none

end Integer

end SmokeSuite
