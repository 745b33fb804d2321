import SmokeSuite.Decimal.Binary64

namespace SmokeSuite.Yaml

inductive FloatValue where
  | finite (value : Binary64)
  | infinite (negative : Bool)
  | notANumber
  deriving DecidableEq

namespace FloatValue

/-- The two zeros are the same number. -/
def same : FloatValue → FloatValue → Bool
  | .finite a, .finite b => a == b || (a.mantissa == 0 && b.mantissa == 0)
  | a, b => a == b

def text : FloatValue → String
  | .finite b => String.ofList b.text
  | .infinite false => "inf"
  | .infinite true => "-inf"
  | .notANumber => "NaN"

end FloatValue

def isNull (s : String) : Bool := s == "null" || s == "Null" || s == "NULL" || s == "~"

def boolOf? (s : String) : Option Bool :=
  if s == "true" || s == "True" || s == "TRUE" then some true
  else if s == "false" || s == "False" || s == "FALSE" then some false
  else none

def digitOf? (c : Char) : Option Nat :=
  if c.isDigit then some (c.toNat - '0'.toNat)
  else if 'a' ≤ c && c ≤ 'f' then some (c.toNat - 'a'.toNat + 10)
  else if 'A' ≤ c && c ≤ 'F' then some (c.toNat - 'A'.toNat + 10)
  else none

def natOf? (base : Nat) (s : List Char) : Option Nat :=
  if s.isEmpty then none
  else s.foldlM (fun n c => do
    let d ← digitOf? c
    if d < base then some (n * base + d) else none) 0

def hasNeedlessZero (s : List Char) : Bool :=
  let digits := match s with
    | '-' :: r => r
    | '+' :: r => r
    | r => r
  match digits with
  | '0' :: d :: r => (d :: r).all Char.isDigit
  | _ => false

def magnitudeOf? : List Char → Option Nat
  | '0' :: 'x' :: r => natOf? 16 r
  | '0' :: 'o' :: r => natOf? 8 r
  | '0' :: 'b' :: r => natOf? 2 r
  | r => natOf? 10 r

def unsignedOf? (s : List Char) : Option Nat :=
  if hasNeedlessZero s then none
  else match s with
    | '+' :: r => magnitudeOf? r
    | r => magnitudeOf? r

def intOf? (s : List Char) : Option Int :=
  match s with
  | '-' :: r => if hasNeedlessZero s then none else (magnitudeOf? r).map fun n => -(n : Int)
  | _ => (unsignedOf? s).map Int.ofNat

def floatOf? (s : String) : Option FloatValue :=
  if [".inf", ".Inf", ".INF", "+.inf", "+.Inf", "+.INF"].contains s then some (.infinite false)
  else if ["-.inf", "-.Inf", "-.INF"].contains s then some (.infinite true)
  else if [".nan", ".NaN", ".NAN"].contains s then some .notANumber
  else ((Decimal.read? s.toList).bind Binary64.ofDecimal).map .finite

inductive Width where
  | word
  | doubleWord
  deriving DecidableEq

def widthOf? (n : Int) : Option Width :=
  if -Int.pow 2 63 ≤ n && n < Int.pow 2 64 then some .word
  else if -Int.pow 2 127 ≤ n && n < Int.pow 2 128 then some .doubleWord
  else none

inductive Meaning where
  | null
  | bool (b : Bool)
  | int (n : Int) (width : Width)
  | float (x : FloatValue)
  | text

def keptInt? (s : String) : Option (Int × Width) := do
  let n ← intOf? s.toList
  let w ← widthOf? n
  some (n, w)

def meaning (s : String) : Meaning :=
  if s == "" || isNull s then .null
  else match boolOf? s with
    | some b => .bool b
    | none =>
      match keptInt? s with
      | some (n, w) => .int n w
      | none =>
        if hasNeedlessZero s.toList then .text
        else match floatOf? s with
          | some x => .float x
          | none => .text

end SmokeSuite.Yaml
