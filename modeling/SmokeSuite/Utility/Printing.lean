import SmokeSuite.Printing.Real
import SmokeSuite.Utility.Call

namespace SmokeSuite.Printing

def escapeOf? (c : Char) : Option Char :=
  match c with
  | 'a' => some '\x07'
  | 'b' => some '\x08'
  | 'e' => some '\x1b'
  | 'f' => some '\x0c'
  | 'n' => some '\n'
  | 'r' => some '\r'
  | 't' => some '\t'
  | 'v' => some '\x0b'
  | '\\' => some '\\'
  | _ => none

/-- A byte written by digits of a base, so many at most; nothing if there is none. -/
def byteOf? (base n : Nat) (s : Octets) : Option (Char × Octets) :=
  let ds := (s.take n).takeWhile (Integer.isDigitOf base)
  if ds.isEmpty then none
  else
    let v := ds.foldl (fun v d => base * v + (Integer.digit? base d).getD 0) 0
    some (Char.ofNat (v % 256), s.drop ds.length)

def withEscapes : Nat → Octets → Octets × Bool
  | 0, _ => ([], false)
  | _ + 1, [] => ([], false)
  | _ + 1, '\\' :: 'c' :: _ => ([], true)
  | fuel + 1, '\\' :: r =>
    let found : Option (Char × Octets) := match r with
      | 'x' :: r => byteOf? 16 2 r
      | '0' :: r => some ((byteOf? 8 3 r).getD ('\x00', r))
      | c :: rest => ((escapeOf? c).map (·, rest)).or (byteOf? 8 3 r)
      | [] => none
    let (c, r) := found.getD ('\\', r)
    let (t, isOver) := withEscapes fuel r
    (c :: t, isOver)
  | fuel + 1, c :: r =>
    let (t, isOver) := withEscapes fuel r
    (c :: t, isOver)

def isEchoOption (w : Octets) : Bool :=
  match w with
  | '-' :: c :: cs => (c :: cs).all fun c => c == 'n' || c == 'e' || c == 'E'
  | _ => false

def echo : Utility := fun c => do
  if c.arguments == ["--help".toList] || c.arguments == ["--version".toList] then return 0
  let options := (c.arguments.takeWhile isEchoOption).flatten
  let t := Octets.joined (c.arguments.dropWhile isEchoOption)
  let escapes := (options.reverse.find? fun c => c == 'e' || c == 'E') == some 'e'
  let (t, isOver) := if escapes then withEscapes (t.length + 1) t else (t, false)
  c.answer (if options.contains 'n' || isOver then t else t ++ ['\n'])

/-- What is written so far, to the output or as complaints, the last piece first; the arguments that are
left; and the status. -/
structure State where
  pieces : List (Bool × Octets) := []
  arguments : List Octets
  status : Nat := 0
  isOver : Bool := false
  deriving Inhabited

namespace State

def write (st : State) (t : Octets) : State := { st with pieces := (false, t) :: st.pieces }

def complain (st : State) (t : Octets) : State :=
  { st with pieces := (true, t) :: st.pieces, status := 1 }

def warn (st : State) (t : Octets) : State := { st with pieces := (true, t) :: st.pieces }

def stop (st : State) (t : Octets) : State := { st.complain t with isOver := true }

def next (st : State) : Option Octets × State :=
  match st.arguments with
  | [] => (none, st)
  | a :: r => (some a, { st with arguments := r })

/-- Complains about an argument that is no number, or not as a whole, or too large. -/
def check (st : State) (argument rest : Octets) (isThere isTooLarge : Bool) : State :=
  let text (t : String) : Octets := Quotation.word argument ++ ": ".toList ++ t.toList
  if isTooLarge then st.complain (text "Numerical result out of range")
  else if rest.isEmpty then st
  else if isThere then st.complain (text "value not completely converted")
  else st.complain (text "expected a numeric value")

/-- The character that an argument quotes instead of writing a number. -/
def quoted? (st : State) (argument : Octets) : Option (Nat × State) :=
  match argument with
  | q :: c :: r =>
    if q == '\'' || q == '"' then
      some (c.toNat, if r.isEmpty then st else st.warn ("warning: ".toList ++ r ++
        ": character(s) following character constant have been ignored".toList))
    else none
  | _ => none

/-- An argument as a whole number, with its value as one that has no sign. -/
def integer (st : State) (isSigned : Bool) (a : Octets) : Int × Nat × State :=
  match st.quoted? a with
  | some (n, st) => (n, n, st)
  | none =>
    let n := Integer.read 0 a
    let isTooLarge := if isSigned then n.isTooLarge else n.size ≥ Integer.unsignedRange
    (n.value, n.unsigned, st.check a (if n.isThere then n.rest else a) n.isThere isTooLarge)

def real (st : State) (a : Octets) : Real × State :=
  match st.quoted? a with
  | some (n, st) => (.ofNat .extended n, st)
  | none =>
    match Real.read? .extended a with
    | some (r, rest) => (r, st.check a rest true false)
    | none => (.zero, st.check a a false false)

end State

/-- An escape behind its backslash; an octal one of `%b` may have a zero in front. What follows it is
given back. -/
def escape (st : State) (hasZero : Bool) (s : Octets) : State × Octets :=
  let missing : State × Octets := (st.stop "missing hexadecimal number in escape".toList, [])
  let sign (letter : Char) (n : Nat) (r : Octets) : State × Octets :=
    let ds := r.take n
    if ds.length < n || !ds.all (Integer.isDigitOf 16) then missing
    else
      let v := ds.foldl (fun v d => 16 * v + (Integer.digit? 16 d).getD 0) 0
      let own := v == '$'.toNat || v == '@'.toNat || v == '`'.toNat
      if (v ≤ 0x9f && !own) || (0xd800 ≤ v && v ≤ 0xdfff) then
        (st.stop ("invalid universal character name \\".toList ++ letter :: ds.map Char.toLower), [])
      else
        let hex := (Nat.toDigits 16 v).map Char.toUpper
        let width := if v < 0x10000 then 4 else 8
        let shown : Octets := if own then [Char.ofNat v]
          else ['\\', if v < 0x10000 then 'u' else 'U'] ++ List.replicate (width - hex.length) '0' ++ hex
        (st.write shown, r.drop n)
  match s with
  | [] => (st.write ['\\'], [])
  | 'c' :: _ => ({ st with isOver := true, status := 0 }, [])
  | '"' :: r => (st.write ['"'], r)
  | 'x' :: r =>
    match byteOf? 16 2 r with
    | some (c, r) => (st.write [c], r)
    | none => missing
  | 'u' :: r => sign 'u' 4 r
  | 'U' :: r => sign 'U' 8 r
  | c :: r =>
    match escapeOf? c with
    | some d => (st.write [d], r)
    | none =>
      if hasZero && c == '0' then
        let (d, r) := (byteOf? 8 3 r).getD ('\x00', r)
        (st.write [d], r)
      else match byteOf? 8 3 s with
        | some (d, r) => (st.write [d], r)
        | none => (st.write ['\\', c], r)

def escaped : Nat → State → Octets → State
  | 0, st, _ => st
  | _ + 1, st, [] => st
  | fuel + 1, st, '\\' :: r =>
    let (st, r) := escape st true r
    if st.isOver then st else escaped fuel st r
  | fuel + 1, st, c :: r => escaped fuel (st.write [c]) r

/-- The letters of directives, without those that a flag or a precision forbids. -/
def lettersFor (flags : Octets) (hasPrecision : Bool) : Octets :=
  let refused : Octets :=
    (if flags.contains '\'' then "aAceEosxX".toList else []) ++
    (if flags.contains 'I' then "aAceEosxX".toList else []) ++
    (if flags.contains '#' then "cdisu".toList else []) ++
    (if flags.contains '0' then "cs".toList else []) ++ (if hasPrecision then ['c'] else [])
  "aAcdeEfFgGiosuxX".toList.filter fun c => !refused.contains c

def count (st : State) (what : String) (s : Octets) : Int × State × Octets :=
  match s with
  | '*' :: r =>
    match st.next with
    | (none, st) => (0, st, r)
    | (some a, st) =>
      let (n, _, st) := st.integer true a
      if n > Integer.maxCount then (0, st.stop (what.toList ++ ": ".toList ++ Quotation.word a), r)
      else (n, st, r)
  | _ =>
    let ds := s.takeWhile Char.isDigit
    (Octets.digitsValue 10 ds, st, s.drop ds.length)

def convert (st : State) (l : Layout) (letter : Char) (a : Octets) : State :=
  match letter with
  | 's' => st.write (l.text a)
  | 'c' => st.write (l.pad [a.headD '\x00'])
  | 'd' | 'i' =>
    let (n, _, st) := st.integer true a
    st.write (l.whole (l.sign (n < 0)) [] (Nat.toDigits 10 n.natAbs) (n == 0))
  | 'u' | 'o' | 'x' | 'X' =>
    let (_, n, st) := st.integer false a
    let (base, mark) : Nat × Octets := match letter with
      | 'u' => (10, [])
      | 'o' => (8, ['0'])
      | 'x' => (16, ['0', 'x'])
      | _ => (16, ['0', 'X'])
    let ds := Nat.toDigits base n
    st.write (l.whole [] (if l.alternate && n != 0 then mark else [])
      (if letter == 'X' then ds.map Char.toUpper else ds) (n == 0))
  | _ =>
    let (r, st) := st.real a
    st.write (r.text .extended l letter)

/-- Writes what a directive says, whose text behind the percent sign comes first; gives back what follows
it. -/
def directive (st : State) (s : Octets) : State × Octets :=
  match s with
  | '%' :: r => (st.write ['%'], r)
  | 'b' :: r =>
    let (a, st) := st.next
    let t := a.getD []
    (escaped (t.length + 1) st t, r)
  | 'q' :: r =>
    match st.next with
    | (some a, st) =>
      (st.write (if Quotation.needsQuotes (a.filter (· != ':')) then Quotation.always a else a), r)
    | (none, st) => (st, r)
  | _ =>
    let flags := s.takeWhile fun c => "I'-+ #0".toList.contains c
    let (width, st, r) := count st "invalid field width" (s.drop flags.length)
    let (precision, st, r) : Option Int × State × Octets := match r with
      | '.' :: r =>
        let (p, st, r) := count st "invalid precision" r
        (some p, st, r)
      | r => (none, st, r)
    let r := r.dropWhile fun c => "lLhjtz".toList.contains c
    let l : Layout :=
      { left := flags.contains '-' || width < 0
        zeros := flags.contains '0'
        plus := flags.contains '+'
        blank := flags.contains ' '
        alternate := flags.contains '#'
        width := width.natAbs
        precision := match precision with
          | some p => if p < 0 then none else some p.toNat
          | none => none }
    if st.isOver then (st, [])
    else
      let shown := '%' :: s.take (s.length - r.length + 1)
      match r with
      | c :: rest =>
        if (lettersFor flags precision.isSome).contains c then
          let (a, st) := st.next
          (convert st l c (a.getD []), rest)
        else (st.stop (shown ++ ": invalid conversion specification".toList), [])
      | [] => (st.stop (shown ++ ": invalid conversion specification".toList), [])

def once : Nat → State → Octets → State
  | 0, st, _ => st
  | _ + 1, st, [] => st
  | fuel + 1, st, '%' :: r =>
    let (st, r) := directive st r
    if st.isOver then st else once fuel st r
  | fuel + 1, st, '\\' :: r =>
    let (st, r) := escape st false r
    if st.isOver then st else once fuel st r
  | fuel + 1, st, c :: r => once fuel (st.write [c]) r

/-- Writes a format again and again while it uses arguments and some are left. -/
def repeated : Nat → State → Octets → State
  | 0, st, _ => st
  | fuel + 1, st, format =>
    let before := st.arguments.length
    let st := once (format.length + 1) st format
    if st.isOver then st
    else match st.arguments with
      | [] => st
      | a :: _ =>
        if st.arguments.length = before then
          st.warn ("warning: ignoring excess arguments, starting with ".toList ++ Quotation.word a)
        else repeated fuel st format

/-- Writes pieces in order, each to its channel; what goes to the output is gathered up to the next
complaint. -/
def deliver (c : Call) : Octets → List (Bool × Octets) → Act Unit
  | held, [] => c.put held
  | held, (false, t) :: rest => deliver c (held ++ t) rest
  | held, (true, t) :: rest => do
    c.put held
    c.tell t
    deliver c [] rest

def printf : Utility := fun c => do
  let words := match c.arguments with
    | ['-', '-'] :: ws => ws
    | ws => ws
  match words with
  | [] => c.missingOperand
  | format :: arguments => do
    if arguments.isEmpty && (format == "--help".toList || format == "--version".toList) then return 0
    let st := repeated (arguments.length + 1) { arguments } format
    let (texts, complaints) := st.pieces.partition (!·.1)
    if complaints.isEmpty then c.put (texts.reverse.flatMap (·.2))
    else deliver c [] st.pieces.reverse
    return st.status

end SmokeSuite.Printing
