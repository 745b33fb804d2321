import SmokeSuite.Text.Line
import SmokeSuite.Text.Utf8

namespace SmokeSuite

abbrev Octets := List Char

namespace Octets

def ofBytes (bs : List UInt8) : Octets := bs.map fun b => Char.ofNat b.toNat

def toBytes (s : Octets) : List UInt8 := s.map fun c => UInt8.ofNat c.toNat

def ofString (s : String) : Octets := ofBytes (s.toList.flatMap String.utf8EncodeChar)

def toPath (s : Octets) : String := String.ofList (Text.Utf8.decodeLossy s.toBytes)

def ofInt (n : Int) : Octets := (toString n).toList

def ofNat (n : Nat) : Octets := (toString n).toList

def digitsValue (base : Nat) (ds : Octets) : Nat :=
  ds.foldl (fun n d => base * n + (d.toNat - '0'.toNat)) 0

def toNat? (s : Octets) : Option Nat :=
  if s.isEmpty || !s.all Char.isDigit then none else some (digitsValue 10 s)

def joined (words : List Octets) : Octets := [' '].intercalate words

def remark (name text : Octets) : Octets := name ++ [':', ' '] ++ text ++ ['\n']

def lines (s : Octets) : List Octets :=
  let ls := (Text.partsAt '\n' s).map (· ++ ['\n'])
  match ls.getLast? with
  | some l => ls.dropLast ++ (if l.length = 1 then [] else [l.dropLast])
  | none => []

def lastName (path : Octets) : Octets :=
  let trimmed := (path.reverse.dropWhile (· == '/')).reverse
  if trimmed.isEmpty then path.take 1 else (trimmed.reverse.takeWhile (· != '/')).reverse

def directoryName (path : Octets) : Octets :=
  let trimmed := (path.reverse.dropWhile (· == '/')).reverse
  if trimmed.isEmpty then (if path.isEmpty then ['.'] else ['/'])
  else
    let before := (trimmed.reverse.dropWhile (· != '/')).dropWhile (· == '/') |>.reverse
    if before.isEmpty then (if trimmed.contains '/' then ['/'] else ['.']) else before

end Octets

end SmokeSuite
