import SmokeSuite.Glob.Pattern
import SmokeSuite.Text.Utf8

namespace SmokeSuite.Glob

inductive ReadError where
  | unclosedClass
  | invalidRange (low high : Char)
  | unopenedAlternatives
  | unclosedAlternatives
  | danglingEscape
  deriving DecidableEq, Inhabited

def ReadError.message : ReadError → String
  | .unclosedClass => "unclosed character class; missing ']'"
  | .invalidRange low high =>
    "invalid range; '" ++ low.toString ++ "' > '" ++ high.toString ++ "'"
  | .unopenedAlternatives =>
    "unopened alternate group; missing '\x7b' (maybe escape '\x7d' with '[\x7d]'?)"
  | .unclosedAlternatives =>
    "unclosed alternate group; missing '\x7d' (maybe escape '\x7b' with '[\x7b]'?)"
  | .danglingEscape => "dangling '\\'"

def ReadError.messageFor (e : ReadError) (pattern : String) : String :=
  "error parsing glob '" ++ pattern ++ "': " ++ e.message

abbrev CharRange := Char × Char

/-- The bytes that a range puts into a class. A character of several bytes stands for each of them,
and a range joins the last byte of its low end to the first byte of its high end. -/
def byteRanges (r : CharRange) : List ByteRange :=
  let single (bs : List UInt8) : List ByteRange := bs.map fun b => ⟨b, b⟩
  let low := String.utf8EncodeChar r.1
  if r.1 = r.2 then single low
  else
    let high := String.utf8EncodeChar r.2
    single low.dropLast ++ [⟨low.getLastD 0, high.headD 0⟩] ++ single high.tail

/-- Where reading a class stands: the ranges so far, the last one first, and whether a hyphen waits
for the high end of the last one. -/
structure ClassState where
  ranges : List CharRange
  inRange : Bool

def ClassState.push (st : ClassState) (c : Char) : Except ReadError ClassState :=
  match st.inRange, st.ranges with
  | true, (low, _) :: rest =>
    if c < low then .error (.invalidRange low c) else .ok ⟨(low, c) :: rest, false⟩
  | _, rest =>
    if c == '-' && !rest.isEmpty then .ok ⟨rest, true⟩ else .ok ⟨(c, c) :: rest, false⟩

/-- The ranges of a class up to its closing bracket, and the text after it. A bracket in the first
place does not close it, and a hyphen in the last place stands for itself. -/
def readClass (st : ClassState) (first : Bool) :
    List Char → Except ReadError (List CharRange × List Char)
  | [] => .error .unclosedClass
  | c :: r =>
    if c == ']' && !first then
      .ok ((if st.inRange then ('-', '-') :: st.ranges else st.ranges).reverse, r)
    else
      match (if first then .ok ⟨[(c, c)], false⟩ else st.push c) with
      | .error e => .error e
      | .ok st => readClass st false r

theorem length_readClass {st : ClassState} {first : Bool} {s : List Char} {rs : List CharRange}
    {r : List Char} (h : readClass st first s = .ok (rs, r)) : r.length < s.length := by
  induction s generalizing st first with
  | nil => simp [readClass] at h
  | cons c s ih =>
    rw [readClass] at h
    split at h
    · cases h; simp
    · split at h
      · cases h
      · exact Nat.lt_succ_of_lt (ih h)

/-- A group in braces that is being read: its finished branches and the one that goes on, each with
the last piece first. The text before the group waits below it. -/
structure Group where
  branches : List (List Piece)
  current : List Piece

/-- Reading in progress: the pieces outside all groups, the open groups from inside out, and the
last character read. -/
structure State where
  top : List Piece := []
  groups : List Group := []
  last : Option Char := none

namespace State

/-- The pieces that the next one is put after, the last one first. -/
def current (st : State) : List Piece :=
  match st.groups with
  | [] => st.top
  | g :: _ => g.current

def setCurrent (st : State) (ps : List Piece) : State :=
  match st.groups with
  | [] => { st with top := ps }
  | g :: gs => { st with groups := { g with current := ps } :: gs }

def push (st : State) (p : Piece) : State := st.setCurrent (p :: st.current)

def openGroup (st : State) : State := { st with groups := ⟨[], []⟩ :: st.groups }

/-- A comma outside all groups is a character like any other. -/
def comma (st : State) : State :=
  match st.groups with
  | [] => st.push (.literal [0x2C])
  | g :: gs => { st with groups := ⟨g.current.reverse :: g.branches, []⟩ :: gs }

def closeGroup (st : State) : Except ReadError State :=
  match st.groups with
  | [] => .error .unopenedAlternatives
  | g :: gs =>
    .ok ({ st with groups := gs }.push
      (.alternatives (g.current.reverse :: g.branches).reverse))

def pushChar (st : State) (c : Char) : State := st.push (.literal (String.utf8EncodeChar c))

/-- Two stars that stand for whole directories take the place of the piece before them, which is the
slash there. -/
def pushDirectories (st : State) (atEnd : Bool) : State :=
  match st.current with
  | .leadingDirectories :: _ => st
  | .everythingBelow :: _ => st
  | _ :: ps => st.setCurrent ((if atEnd then .everythingBelow else .innerDirectories) :: ps)
  | [] => st

end State

/-- Takes two stars; `before` is the character before them. They stand for whole directories only
between slashes or the ends of the pattern or branch. Returns the text that is left, without the
slash that belongs to them. -/
def doubleStar (st : State) (before : Option Char) (r : List Char) : State × List Char :=
  let plain := (st.push .star).push .star
  if st.current.isEmpty then
    match r with
    | [] => (st.push .leadingDirectories, [])
    | '/' :: r' => ({ st.push .leadingDirectories with last := some '/' }, r')
    | _ => (plain, r)
  else if before != some '/' &&
      (st.groups.isEmpty || (before != some ',' && before != some '\x7b')) then (plain, r)
  else
    match r with
    | [] => (st.pushDirectories true, [])
    | '/' :: r' => ({ st.pushDirectories false with last := some '/' }, r')
    | c :: _ =>
      if !st.groups.isEmpty && (c == ',' || c == '\x7d') then (st.pushDirectories true, r)
      else (plain, r)

theorem length_doubleStar_le (st : State) (before : Option Char) (r : List Char) :
    (doubleStar st before r).2.length ≤ r.length := by
  unfold doubleStar
  (repeat' split) <;> simp

def classSign : List Char → Bool × List Char
  | '!' :: r => (true, r)
  | '^' :: r => (true, r)
  | r => (false, r)

theorem length_classSign_le (r : List Char) : (classSign r).2.length ≤ r.length := by
  unfold classSign
  split <;> simp

def readPieces (st : State) : List Char → Except ReadError State
  | [] => .ok st
  | '*' :: '*' :: r =>
    have := length_doubleStar_le { st with last := some '*' } st.last r
    readPieces (doubleStar { st with last := some '*' } st.last r).1
      (doubleStar { st with last := some '*' } st.last r).2
  | '*' :: r => readPieces ({ st with last := some '*' }.push .star) r
  | '?' :: r => readPieces ({ st with last := some '?' }.push .any) r
  | '[' :: r =>
    match h : readClass ⟨[], false⟩ true (classSign r).2 with
    | .error e => .error e
    | .ok (ranges, rest) =>
      have : rest.length < r.length + 1 := by
        have := length_readClass h
        have := length_classSign_le r
        omega
      readPieces ({ st with last := some ']' }.push (.oneOf (classSign r).1
        (ranges.flatMap byteRanges))) rest
  | '\x7b' :: r => readPieces { st.openGroup with last := some '\x7b' } r
  | '\x7d' :: r =>
    match st.closeGroup with
    | .error e => .error e
    | .ok st => readPieces { st with last := some '\x7d' } r
  | ',' :: r => readPieces { st.comma with last := some ',' } r
  | ['\\'] => .error .danglingEscape
  | '\\' :: c :: r => readPieces ({ st with last := some c }.pushChar c) r
  | c :: r => readPieces ({ st with last := some c }.pushChar c) r
termination_by s => s.length

def read (text : String) : Except ReadError Pattern := do
  let st ← readPieces {} text.toList
  if st.groups.isEmpty then .ok st.top.reverse else .error .unclosedAlternatives

end SmokeSuite.Glob
