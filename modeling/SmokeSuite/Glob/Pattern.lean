namespace SmokeSuite.Glob

/-- A range of bytes, both ends included. -/
structure ByteRange where
  low : UInt8
  high : UInt8
  deriving DecidableEq, Inhabited

def ByteRange.contains (r : ByteRange) (b : UInt8) : Bool := r.low ≤ b && b ≤ r.high

inductive Piece where
  | literal (bytes : List UInt8)
  | any
  | star
  /-- `**/` at the start: nothing, or whole directories. -/
  | leadingDirectories
  /-- `/**` at the end: everything below. -/
  | everythingBelow
  /-- `/**/` in the middle: a slash, with whole directories after it or not. -/
  | innerDirectories
  | oneOf (negated : Bool) (ranges : List ByteRange)
  /-- One of these; a branch that matches the empty text only is left out. -/
  | alternatives (branches : List (List Piece))
  deriving Inhabited

abbrev Pattern := List Piece

def slash : UInt8 := 0x2F

def suffixes : List UInt8 → List (List UInt8)
  | [] => [[]]
  | b :: r => (b :: r) :: suffixes r

def afterSlashes : List UInt8 → List (List UInt8)
  | [] => []
  | b :: r => if b = slash then r :: afterSlashes r else afterSlashes r

def dropBytes? : List UInt8 → List UInt8 → Option (List UInt8)
  | [], s => some s
  | _ :: _, [] => none
  | p :: ps, b :: s => if p = b then dropBytes? ps s else none

def union : List (List UInt8) → List (List UInt8) → List (List UInt8)
  | [], ts => ts
  | ss, [] => ss
  | s :: ss, t :: ts =>
    if s.length = t.length then s :: union ss ts
    else if s.length > t.length then s :: union ss (t :: ts)
    else t :: union (s :: ss) ts
termination_by ss ts => ss.length + ts.length

mutual

/-- Whether a piece always matches the empty text and nothing else. -/
def Piece.isEmpty : Piece → Bool
  | .alternatives branches => allEmpty branches
  | _ => false

def patternIsEmpty : List Piece → Bool
  | [] => true
  | p :: ps => p.isEmpty && patternIsEmpty ps

def allEmpty : List (List Piece) → Bool
  | [] => true
  | ps :: branches => patternIsEmpty ps && allEmpty branches

end

mutual

/-- The suffixes that a piece may leave of one of the texts. -/
def Piece.leave : Piece → List (List UInt8) → List (List UInt8)
  | .literal bytes, ss => ss.filterMap (dropBytes? bytes)
  | .any, ss => ss.filterMap List.tail?
  | .star, ss => (ss.head?.map suffixes).getD []
  | .leadingDirectories, ss => union ss ((ss.head?.map afterSlashes).getD [])
  | .everythingBelow, ss =>
    (((ss.filterMap (dropBytes? [slash])).head?).map suffixes).getD []
  | .innerDirectories, ss =>
    let inside := ss.filterMap (dropBytes? [slash])
    union inside ((inside.head?.map afterSlashes).getD [])
  | .oneOf negated ranges, ss => ss.filterMap fun
    | [] => none
    | b :: r => if ranges.any (·.contains b) != negated then some r else none
  | .alternatives branches, ss =>
    if allEmpty branches then ss else leaveAny branches ss

def leaveAll : List Piece → List (List UInt8) → List (List UInt8)
  | [], ss => ss
  | p :: ps, ss => leaveAll ps (p.leave ss)

def leaveAny : List (List Piece) → List (List UInt8) → List (List UInt8)
  | [], _ => []
  | ps :: branches, ss =>
    if patternIsEmpty ps then leaveAny branches ss
    else union (leaveAll ps ss) (leaveAny branches ss)

end

def isEverything : Pattern → Bool
  | [.leadingDirectories] => true
  | _ => false

def Pattern.matchesBytes (p : Pattern) (text : List UInt8) : Bool :=
  isEverything p || (leaveAll p [text]).any List.isEmpty

end SmokeSuite.Glob
