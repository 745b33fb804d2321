import SmokeSuite.Text.Octets

namespace SmokeSuite.Quotation

def isPrintable (c : Char) : Bool := ' ' ≤ c && c ≤ '~'

def letter? (c : Char) : Option Char :=
  match c with
  | '\x07' => some 'a'
  | '\x08' => some 'b'
  | '\t' => some 't'
  | '\n' => some 'n'
  | '\x0b' => some 'v'
  | '\x0c' => some 'f'
  | '\r' => some 'r'
  | _ => none

def escape (c : Char) : Octets :=
  match letter? c with
  | some l => ['\\', l]
  | none =>
    let digit (n : Nat) : Char := Char.ofNat ('0'.toNat + n % 8)
    ['\\', digit (c.toNat / 64), digit (c.toNat / 8), digit c.toNat]

/-- Whether a character in a name makes a shell read something else, where `isFirst` tells that the name
begins with it and `isAlone` that there is nothing else. -/
def isSpecial (isFirst isAlone : Bool) (c : Char) : Bool :=
  !isPrintable c || " !\"$&'()*;<=>?[\\^`|".toList.contains c || ((c == '#' || c == '~') && isFirst) ||
    ((c == '{' || c == '}') && isAlone)

def needsQuotes (name : Octets) : Bool :=
  match name with
  | [] => true
  | c :: cs => isSpecial true cs.isEmpty c || cs.any (isSpecial false false) || name.contains ':'

def isPlain (isFirst isAlone : Bool) (c : Char) : Bool :=
  c == '\'' || c == ' ' || (isPrintable c && !isSpecial true true c) ||
    ((c == '#' || c == '~') && isFirst) || ((c == '{' || c == '}') && isAlone)

def arePlain (name : Octets) : Bool :=
  match name with
  | [] => true
  | c :: cs => isPlain true cs.isEmpty c && cs.all (isPlain false false)

/-- The inside of quotes. `escapes` tells that the last character was written by its number, in quotes of
its own. -/
def inside : Bool → Octets → Octets
  | _, [] => []
  | escapes, c :: cs =>
    if c == '\'' then ['\'', '\\', '\'', '\''] ++ inside false cs
    else if isPrintable c then (if escapes then ['\'', '\''] else []) ++ c :: inside false cs
    else (if escapes then [] else ['\'', '$', '\'']) ++ escape c ++ inside true cs

/-- A name in quotes. One with a quote in it is gone through twice, and what the end asks for holds at the
start of the second time. -/
def always (name : Octets) : Octets :=
  if !name.contains '\'' then ['\''] ++ inside false name ++ ['\'']
  else if arePlain name then ['"'] ++ name ++ ['"']
  else ['\''] ++ inside (name.getLast?.any (!isPrintable ·)) name ++ ['\'']

def ifNeeded (name : Octets) : Octets := if needsQuotes name then always name else name

def word (w : Octets) : Octets :=
  ['\''] ++ w.flatMap (fun c =>
    if c == '\'' || c == '\\' then ['\\', c] else if isPrintable c then [c] else escape c) ++ ['\'']

end SmokeSuite.Quotation
