import SmokeSuite.Utility.Call
import SmokeSuite.Text.Integer

namespace SmokeSuite.Amount

def powerOf? (c : Char) : Option Nat :=
  match c with
  | 'k' | 'K' => some 1
  | 'm' | 'M' => some 2
  | 'G' => some 3
  | 'T' => some 4
  | 'P' => some 5
  | 'E' => some 6
  | 'Z' => some 7
  | 'Y' => some 8
  | 'R' => some 9
  | 'Q' => some 10
  | _ => none

def factor? (s : Octets) : Option Nat :=
  match s with
  | [] => some 1
  | ['b'] => some 512
  | c :: r =>
    match powerOf? c, r with
    | some p, [] | some p, ['i', 'B'] => some (Nat.pow 1024 p)
    | some p, ['B'] => some (Nat.pow 1000 p)
    | _, _ => none

def limit : Nat := UInt64.size

/-- The value of an amount; a letter without a number counts once. -/
def read? (s : Octets) : Option Nat := do
  let t := s.dropWhile Integer.isBlank
  let t := match t with
    | '+' :: r => r
    | r => r
  let ds := t.takeWhile Char.isDigit
  let rest := t.drop ds.length
  if ds.isEmpty && rest.isEmpty then none
  else
    let f ← factor? rest
    return (if ds.isEmpty then 1 else Octets.digitsValue 10 ds) * f

/-- The value of an amount of something; a program ends if there is none. -/
def demand (c : Call) (what : String) (s : Octets) : Act Nat :=
  let text := what.toList ++ ": ".toList ++ Quotation.word s
  match read? s with
  | none => c.giveUp text
  | some n =>
    if n ≥ limit then c.giveUp (text ++ ": Value too large for defined data type".toList)
    else return n

end SmokeSuite.Amount
