namespace SmokeSuite.Yaml

/-- How many bytes, whole lines, and characters of the line stand before a place. -/
structure Place where
  index : Nat := 0
  line : Nat := 0
  column : Nat := 0
  deriving DecidableEq, Inhabited

namespace Place

def next (p : Place) (c : Char) : Place := ⟨p.index + c.utf8Size, p.line, p.column + 1⟩

def nextAll (p : Place) (cs : List Char) : Place := cs.foldl next p

def nextLine (p : Place) (ending : List Char) : Place := ⟨(p.nextAll ending).index, p.line + 1, 0⟩

end Place

def isAllowed (c : Char) : Bool :=
  let n := c.toNat
  n == 0x09 || n == 0x0A || n == 0x0D || (0x20 ≤ n && n ≤ 0x7E) || n == 0x85 ||
    (0xA0 ≤ n && n ≤ 0xD7FF) || (0xE000 ≤ n && n ≤ 0xFFFD) || 0x10000 ≤ n

def isBreak (c : Char) : Bool :=
  c == '\r' || c == '\n' || c == '\u0085' || c == '\u2028' || c == '\u2029'

def isSpace (c : Char) : Bool := c == ' ' || c == '\t'

def isNameChar (c : Char) : Bool := c.isAlphanum || c == '_' || c == '-'

def foldedBreak (c : Char) : Char := if c == '\u2028' || c == '\u2029' then c else '\n'

def endsWord : List Char → Bool
  | [] => true
  | c :: _ => isSpace c || isBreak c

def hasDocumentMark : List Char → Bool
  | '-' :: '-' :: '-' :: r => endsWord r
  | '.' :: '.' :: '.' :: r => endsWord r
  | _ => false

structure Cursor where
  place : Place
  ahead : List Char
  deriving Inhabited

namespace Cursor

def skip (c : Cursor) (n : Nat) : Cursor := ⟨c.place.nextAll (c.ahead.take n), c.ahead.drop n⟩

def skipBreak (c : Cursor) : Cursor :=
  match c.ahead with
  | '\r' :: '\n' :: r => ⟨c.place.nextLine ['\r', '\n'], r⟩
  | d :: r => if isBreak d then ⟨c.place.nextLine [d], r⟩ else c
  | [] => c

def span (c : Cursor) (p : Char → Bool) : List Char × Cursor :=
  let cs := c.ahead.takeWhile p
  (cs, ⟨c.place.nextAll cs, c.ahead.dropWhile p⟩)

def skipWhile (c : Cursor) (p : Char → Bool) : Cursor := (c.span p).2

def skipComment (c : Cursor) : Cursor :=
  if c.ahead.head? == some '#' then c.skipWhile (!isBreak ·) else c

/-- Moves over a line end or stays at the end of the text; nothing else may stand there. -/
def finishLine (c : Cursor) : Option Cursor :=
  match c.ahead with
  | [] => some c
  | d :: _ => if isBreak d then some c.skipBreak else none

end Cursor

end SmokeSuite.Yaml
