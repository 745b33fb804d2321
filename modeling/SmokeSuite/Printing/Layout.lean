import SmokeSuite.Text.Octets

namespace SmokeSuite

structure Layout where
  left : Bool := false
  zeros : Bool := false
  plus : Bool := false
  blank : Bool := false
  alternate : Bool := false
  width : Nat := 0
  precision : Option Nat := none
  deriving DecidableEq, Inhabited

namespace Layout

def pad (l : Layout) (s : Octets) : Octets :=
  let gap := List.replicate (l.width - s.length) ' '
  if l.left then s ++ gap else gap ++ s

/-- A number of a sign, a mark and digits, with zeros between them if these fill the width. -/
def fill (l : Layout) (zeros : Bool) (sign mark digits : Octets) : Octets :=
  let body := sign ++ mark ++ digits
  if zeros && !l.left then sign ++ mark ++ List.replicate (l.width - body.length) '0' ++ digits
  else l.pad body

def sign (l : Layout) (negative : Bool) : Octets :=
  if negative then ['-'] else if l.plus then ['+'] else if l.blank then [' '] else []

def whole (l : Layout) (sign mark digits : Octets) (isZero : Bool) : Octets :=
  let digits := match l.precision with
    | some p =>
      if isZero && p = 0 then [] else List.replicate (p - digits.length) '0' ++ digits
    | none => digits
  l.fill (l.zeros && l.precision.isNone) sign mark digits

def text (l : Layout) (s : Octets) : Octets :=
  l.pad (match l.precision with
    | some p => s.take p
    | none => s)

end Layout

end SmokeSuite
