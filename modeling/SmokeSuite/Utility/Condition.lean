import SmokeSuite.Shell.Test
import SmokeSuite.Utility.Call

namespace SmokeSuite.Condition

/-- What is known while a condition is read: the words that are left, and the last of all words. -/
structure Reader where
  words : List Octets
  last : Octets

abbrev Read := StateT Reader (Except Octets)

def complain {α : Type} (t : Octets) : Read α := throw t

def beyond {α : Type} : Read α := do
  complain ("missing argument after ".toList ++ Quotation.word (← get).last)

def word : Read Octets := do return (← get).words.headD []

def wordAt (n : Nat) : Read (Option Octets) := do return (← get).words[n]?

def skip (n : Nat) : Read Unit := modify fun r => { r with words := r.words.drop n }

def advance : Read Unit := do
  skip 1
  if (← get).words.isEmpty then beyond

def comparisons : List String :=
  ["=", "==", "!=", "-nt", "-ot", "-ef", "-eq", "-ne", "-lt", "-le", "-gt", "-ge"]

def isComparison (w : Octets) : Bool := comparisons.contains (String.ofList w)

def isQuestion (w : Octets) : Bool := w.length = 2 && w.head? == some '-'

def number (w : Octets) : Read Int := do
  let t := w.dropWhile Integer.isBlank
  let (negative, t) := match t with
    | '-' :: r => (true, r)
    | '+' :: r => (false, r)
    | r => (false, r)
  let ds := t.takeWhile Char.isDigit
  if ds.isEmpty || !(t.drop ds.length).all Integer.isBlank then
    complain ("invalid integer ".toList ++ Quotation.word w)
  let n : Int := Octets.digitsValue 10 ds
  return if negative then -n else n

def question (world : Shell.Test.World) : Read Bool := do
  let w ← word
  let name := String.ofList w
  if !("bcdefgGhkLNnOprsStuwxz".toList.contains (w.getD 1 ' ')) then
    complain (Quotation.word w ++ ": unary operator expected".toList)
  advance
  let operand ← word
  skip 1
  if name == "-t" then
    discard (number operand)
    return false
  match Shell.Test.ask world name operand with
  | .ok b => return b
  | .error f => complain f.text

/-- A comparison of two words, of which each may be the length of another one. -/
def comparison (world : Shell.Test.World) (leftIsLength : Bool) : Read Bool := do
  if leftIsLength then skip 1
  let left ← word
  let sign := String.ofList ((← wordAt 1).getD [])
  let rightIsLength := (← get).words.length > 3 && (← wordAt 2) == some ['-', 'l']
  let right := (← wordAt (if rightIsLength then 3 else 2)).getD []
  skip (if rightIsLength then 4 else 3)
  let value (isLength : Bool) (w : Octets) : Read Int := if isLength then pure w.length else number w
  let numbers (f : Int → Int → Bool) : Read Bool := do
    let a ← value leftIsLength left
    let b ← value rightIsLength right
    return f a b
  match sign with
  | "=" | "==" => return left == right
  | "!=" => return left != right
  | "-eq" => numbers (· == ·)
  | "-ne" => numbers (· != ·)
  | "-lt" => numbers (· < ·)
  | "-le" => numbers (· ≤ ·)
  | "-gt" => numbers (· > ·)
  | "-ge" => numbers (· ≥ ·)
  | "-ef" => return world.areSame left right
  | _ => return false

def one : Read Bool := do
  let w ← word
  skip 1
  return !w.isEmpty

def two (world : Shell.Test.World) : Read Bool := do
  let w ← word
  if w == ['!'] then
    skip 1
    return !(← one)
  else if isQuestion w then question world
  else beyond

mutual

/-- A condition of so many words. The first number bounds the steps. -/
def ofLength (world : Shell.Test.World) : Nat → Nat → Read Bool
  | 0, _ => return false
  | fuel + 1, n => do
    let w ← word
    if n = 1 then one
    else if n = 2 then two world
    else if n = 3 then three world fuel
    else if n = 4 && w == ['!'] then
      advance
      return !(← three world fuel)
    else if n = 4 && w == ['('] && (← wordAt 3) == some [')'] then
      skip 1
      let b ← two world
      skip 1
      return b
    else anyOf world fuel

def three (world : Shell.Test.World) : Nat → Read Bool
  | 0 => return false
  | fuel + 1 => do
    let w ← word
    let sign := (← wordAt 1).getD []
    if isComparison sign then comparison world false
    else if w == ['!'] then
      advance
      return !(← two world)
    else if w == ['('] && (← wordAt 2) == some [')'] then
      skip 1
      let b ← one
      skip 1
      return b
    else if sign == ['-', 'a'] || sign == ['-', 'o'] then anyOf world fuel
    else complain (Quotation.word sign ++ ": binary operator expected".toList)

def anyOf (world : Shell.Test.World) : Nat → Read Bool
  | 0 => return false
  | fuel + 1 => do
    let a ← allOf world fuel
    if (← wordAt 0) == some ['-', 'o'] then
      skip 1
      let b ← anyOf world fuel
      return a || b
    else return a

def allOf (world : Shell.Test.World) : Nat → Read Bool
  | 0 => return false
  | fuel + 1 => do
    let a ← term world fuel
    if (← wordAt 0) == some ['-', 'a'] then
      skip 1
      let b ← allOf world fuel
      return a && b
    else return a

def term (world : Shell.Test.World) : Nat → Read Bool
  | 0 => return false
  | fuel + 1 => do
    match ← wordAt 0 with
    | none => beyond
    | some w =>
      let left := (← get).words.length
      let sign (n : Nat) : Read Bool := do return ((← wordAt n).map isComparison).getD false
      if w == ['!'] then
        advance
        return !(← term world fuel)
      else if w == ['('] then
        advance
        let inner := ((← get).words.drop 1).takeWhile (· != [')'])
        let rest := (← get).words.length
        let n := if inner.length ≥ 4 then rest else inner.length + 1
        let b ← ofLength world fuel n
        match ← wordAt 0 with
        | none => complain (Quotation.word [')'] ++ " expected".toList)
        | some w =>
          if w != [')'] then
            complain (Quotation.word [')'] ++ " expected, found ".toList ++ Quotation.word w)
          skip 1
          return b
      else if left ≥ 4 && w == ['-', 'l'] && (← sign 2) then comparison world true
      else if left ≥ 3 && (← sign 1) then comparison world false
      else if isQuestion w then question world
      else one

end

/-- Whether the condition holds that some words state, or why they state none. -/
def holds (world : Shell.Test.World) (ws : List Octets) : Except Octets Bool := do
  match ws.getLast? with
  | none => return false
  | some last =>
    let (b, r) ← (ofLength world (8 * ws.length + 16) ws.length).run ⟨ws, last⟩
    match r.words with
    | [] => return b
    | w :: _ => throw ("extra argument ".toList ++ Quotation.word w)

/-- Decides a condition, which stands before a closing bracket if the program is called so. -/
def test (isBracket : Bool) : Utility := fun c => do
  if isBracket && (c.arguments == ["--help".toList] || c.arguments == ["--version".toList]) then return 0
  let ws := if isBracket then c.arguments.dropLast else c.arguments
  if isBracket && c.arguments.getLast? != some [']'] then
    c.giveUp ("missing ".toList ++ Quotation.word [']'])
  match holds (← Shell.Test.World.ofWords ws) ws with
  | .ok b => return if b then 0 else 1
  | .error t => c.giveUp t

end SmokeSuite.Condition
