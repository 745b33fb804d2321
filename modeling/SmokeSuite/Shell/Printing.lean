import SmokeSuite.Printing.Real

namespace SmokeSuite.Shell

def escapeOf? (c : Char) : Option Char :=
  match c with
  | 'a' => some '\x07'
  | 'b' => some '\x08'
  | 'e' => some '\x1b'
  | 'f' => some '\x0c'
  | 'n' => some '\n'
  | 'r' => some '\r'
  | 't' => some '\t'
  | 'v' => some '\x0b'
  | '\\' => some '\\'
  | _ => none

def isOctal (c : Char) : Bool := '0' ≤ c && c ≤ '7'

def octalChar (n : Nat) (s : Octets) : Char × Octets :=
  let ds := (s.take n).takeWhile isOctal
  (Char.ofNat (Octets.digitsValue 8 ds % 256), s.drop ds.length)

def escaped? (s : Octets) : Option (Char × Octets) :=
  match s with
  | [] => none
  | c :: r =>
    if isOctal c then some (octalChar 3 s) else (escapeOf? c).map fun d => (d, r)

/-- A text with its escapes written out, and whether an escape ended all output. An octal escape may
have a zero in front of its digits. -/
def withEscapes : Nat → Octets → Octets × Bool
  | 0, _ => ([], false)
  | _ + 1, [] => ([], false)
  | _ + 1, '\\' :: 'c' :: _ => ([], true)
  | fuel + 1, '\\' :: r =>
    let digits := match r with
      | '0' :: d :: r => if isOctal d then d :: r else '0' :: d :: r
      | r => r
    let (d, r) := (escaped? digits).getD ('\\', r)
    let (t, ended) := withEscapes fuel r
    (d :: t, ended)
  | fuel + 1, c :: r =>
    let (t, ended) := withEscapes fuel r
    (c :: t, ended)

def escapedText (s : Octets) : Octets × Bool := withEscapes (s.length + 1) s

def echo (arguments : List Octets) : Octets :=
  let (line, words) := match arguments with
    | ['-', 'n'] :: r => (false, r)
    | r => (true, r)
  let (t, ended) := escapedText (Octets.joined words)
  if line && !ended then t ++ ['\n'] else t

namespace Printf

/-- Text that is written so far, backwards, the arguments that are left, and what went wrong. -/
structure State where
  text : List Octets := []
  arguments : List Octets
  complaints : List Octets := []
  isOver : Bool := false
  fault : Option Octets := none

namespace State

def write (st : State) (s : Octets) : State := { st with text := s :: st.text }

def complain (st : State) (c : Octets) : State := { st with complaints := st.complaints ++ [c] }

def stop (st : State) (fault : String) : State :=
  { st with isOver := true, fault := some fault.toList }

def next (st : State) : Option Octets × State :=
  match st.arguments with
  | [] => (none, st)
  | a :: r => (some a, { st with arguments := r })

/-- Complains about an argument of which something was left, or that was too large. -/
def check (st : State) (argument : Octets) (isThere : Bool) (rest : Octets) (isTooLarge : Bool) :
    State :=
  if !isThere && !argument.isEmpty then st.complain (argument ++ ": expected numeric value".toList)
  else if !rest.isEmpty then st.complain (argument ++ ": not completely converted".toList)
  else if isTooLarge then st.complain (argument ++ ": Numerical result out of range".toList)
  else st

/-- The character that an argument quotes instead of writing a number. -/
def quoted? (argument : Octets) : Option Nat :=
  match argument with
  | '\'' :: r | '"' :: r => some ((r.head?.map Char.toNat).getD 0)
  | _ => none

/-- The next argument as a whole number, with its value as one that has no sign. -/
def nextInteger (st : State) (signed : Bool) : Int × Nat × State :=
  match st.next with
  | (none, st) => (0, 0, st)
  | (some a, st) =>
    match quoted? a with
    | some n => (n, n, st)
    | none =>
      let n := Integer.read 0 a
      let isTooLarge := if signed then n.isTooLarge else n.size ≥ Integer.unsignedRange
      (n.value, n.unsigned, st.check a n.isThere n.rest isTooLarge)

def nextReal (st : State) : Real × State :=
  match st.next with
  | (none, st) => (.zero, st)
  | (some a, st) =>
    match quoted? a with
    | some n => (.ofNat .double n, st)
    | none =>
      match Real.read? .double a with
      | some (r, rest) => (r, st.check a true rest false)
      | none => (.zero, st.check a false a false)

end State

def readCount (st : State) (s : Octets) : Int × State × Octets :=
  match s with
  | '*' :: r =>
    let (n, _, st) := st.nextInteger true
    (n, st, r)
  | _ =>
    let ds := s.takeWhile Char.isDigit
    (Octets.digitsValue 10 ds, st, s.drop ds.length)

def readLayout (st : State) (s : Octets) : Layout × State × Octets :=
  let flags := s.takeWhile fun c => c == '-' || c == '0' || c == '+' || c == ' ' || c == '#'
  let (width, st, s) := readCount st (s.drop flags.length)
  let l : Layout :=
    { left := flags.contains '-' || width < 0
      zeros := flags.contains '0'
      plus := flags.contains '+'
      blank := flags.contains ' '
      alternate := flags.contains '#'
      width := width.natAbs }
  match s with
  | '.' :: r =>
    let (p, st, s) := readCount st r
    ({ l with precision := if p < 0 then none else some p.toNat }, st, s)
  | s => (l, st, s)

/-- Writes one argument as a directive's letter says; nothing comes of a letter that is none. -/
def convert? (st : State) (l : Layout) (letter : Char) : Option State :=
  let unsigned (base : Nat) (mark : Octets) (raise : Bool) : State :=
    let (_, n, st) := st.nextInteger false
    let ds := Nat.toDigits base n
    let mark := if l.alternate && n != 0 then mark else []
    st.write (l.whole [] mark (if raise then ds.map Char.toUpper else ds) (n == 0))
  match letter with
  | 's' =>
    let (a, st) := st.next
    let value := a.getD []
    some (st.write (l.text value))
  | 'b' =>
    let (a, st) := st.next
    let (value, ended) := escapedText (a.getD [])
    let st := st.write (l.text value)
    some { st with isOver := ended }
  | 'c' =>
    let (a, st) := st.next
    some (st.write (l.pad [((a.getD []).head?).getD '\x00']))
  | 'd' | 'i' =>
    let (n, _, st) := st.nextInteger true
    some (st.write (l.whole (l.sign (n < 0)) [] (Nat.toDigits 10 n.natAbs) (n == 0)))
  | 'u' => some (unsigned 10 [] false)
  | 'o' => some (unsigned 8 ['0'] false)
  | 'x' => some (unsigned 16 ['0', 'x'] false)
  | 'X' => some (unsigned 16 ['0', 'X'] true)
  | 'e' | 'E' | 'f' | 'F' | 'g' | 'G' | 'a' | 'A' =>
    let (r, st) := st.nextReal
    some (st.write (r.text .double l letter))
  | _ => none

def once : Nat → State → Octets → State
  | 0, st, _ => st
  | _ + 1, st, [] => st
  | fuel + 1, st, '%' :: '%' :: r => once fuel (st.write ['%']) r
  | fuel + 1, st, '%' :: r =>
    let (l, st, s) := readLayout st r
    match s with
    | [] => st.stop "missing format character"
    | c :: rest =>
      match convert? st l c with
      | some st => if st.isOver then st else once fuel st rest
      | none =>
        let directive := '%' :: r.take (r.length - rest.length)
        st.stop (String.ofList directive ++ ": invalid directive")
  | fuel + 1, st, '\\' :: r =>
    let (d, r) := (escaped? r).getD ('\\', r)
    once fuel (st.write [d]) r
  | fuel + 1, st, c :: r => once fuel (st.write [c]) r

def repeated : Nat → State → Octets → State
  | 0, st, _ => st
  | fuel + 1, st, format =>
    let before := st.arguments.length
    let st := once (format.length + 1) st format
    if st.isOver || st.arguments.isEmpty || st.arguments.length == before then st
    else repeated fuel st format

def run (format : Octets) (arguments : List Octets) : State :=
  repeated (arguments.length + 1) { arguments } format

def State.output (st : State) : Octets := st.text.reverse.flatten

end Printf

end SmokeSuite.Shell
