import SmokeSuite.Utility.Amount
import SmokeSuite.Utility.Input

namespace SmokeSuite.Stream

inductive Numbering where
  | nothing
  | filled
  | every
  deriving DecidableEq, Inhabited

structure Manner where
  numbering : Numbering := .nothing
  ends : Bool := false
  tabs : Bool := false
  controls : Bool := false
  /-- Drops empty lines but for the first of a row. -/
  squeezes : Bool := false
  deriving DecidableEq, Inhabited

namespace Manner

def caret (n : Nat) : Octets := ['^', Char.ofNat ((n + 64) % 128)]

def character (m : Manner) (c : Char) : Octets :=
  if c == '\t' then (if m.tabs then ['^', 'I'] else [c])
  else if !m.controls then [c]
  else if c.toNat < 32 || c.toNat = 127 then caret c.toNat
  else if c.toNat < 128 then [c]
  else
    let low := c.toNat - 128
    ['M', '-'] ++ (if low < 32 || low = 127 then caret low else [Char.ofNat low])

structure Place where
  ended : Option Nat := some 0
  number : Nat := 0
  pending : Bool := false
  deriving Inhabited

def numeral (n : Nat) : Octets :=
  let ds := Octets.ofNat n
  List.replicate (6 - ds.length) ' ' ++ ds ++ ['\t']

def step (m : Manner) (p : Place) (c : Char) : Octets × Place :=
  let held : Octets := if p.pending && c != '\n' then ['\r'] else []
  if c == '\n' then
    match p.ended with
    | none =>
      ((if p.pending then ['^', 'M'] else []) ++ (if m.ends then ['$'] else []) ++ [c],
        { p with ended := some 0, pending := false })
    | some n =>
      if n ≥ 1 && m.squeezes then ([], { p with ended := some 2, pending := false })
      else
        let isNumbered := m.numbering == .every
        ((if isNumbered then numeral (p.number + 1) else []) ++ (if p.pending then ['^', 'M'] else []) ++
          (if m.ends then ['$'] else []) ++ [c],
          { ended := some (n + 1), number := if isNumbered then p.number + 1 else p.number })
  else
    let isNumbered := p.ended.isSome && m.numbering != .nothing
    let number := if isNumbered then p.number + 1 else p.number
    let start := held ++ (if isNumbered then numeral number else [])
    if c == '\r' && m.ends && !m.controls then (start, { ended := none, number, pending := true })
    else (start ++ m.character c, { ended := none, number })

def sieve (m : Manner) : Sieve Place where
  start := {}
  piece := fun p t =>
    let (out, p) := t.foldl (fun (out, p) c =>
      let (o, p) := m.step p c
      (o :: out, p)) (([] : List Octets), p)
    (out.reverse.flatten, p)
  last := fun p => if p.pending then ['\r'] else []

end Manner

def catKnobs : List Knob :=
  [.flag 'A' "show-all", .flag 'b' "number-nonblank", .flag 'E' "show-ends", .flag 'n' "number",
    .flag 's' "squeeze-blank", .flag 'T' "show-tabs", .flag 'v' "show-nonprinting"] ++
  Knob.letters "etu"

def cat : Utility := fun c => do
  let o ← c.choices catKnobs true
  let has (keys : List String) : Bool := keys.any o.has
  let m : Manner :=
    { numbering := if o.has "number-nonblank" then .filled else if o.has "number" then .every else .nothing
      ends := has ["show-all", "e", "show-ends"]
      tabs := has ["show-all", "t", "show-tabs"]
      controls := has ["show-all", "e", "t", "show-nonprinting"]
      squeezes := o.has "squeeze-blank" }
  if (← Act.inspect 1).isNone then c.giveUp "standard output: Bad file descriptor".toList
  let paths := Call.inputsOf o.operands
  let isLost := paths.contains ['-'] && (← Act.inspect 0).isNone
  let status ← if m == {} then c.pour .plain { start := (), piece := fun _ t => (t, ()) } paths
    else c.pour .plain m.sieve paths
  if isLost then c.giveUp "closing standard input: Bad file descriptor".toList
  return status

def title (path : Octets) : Octets := if path == ['-'] then "standard input".toList else path

def excuses : Call.Excuses where
  unopened := fun path e => Call.Excuses.wordy.unopened (title path) e
  unread := fun path e => Call.Excuses.wordy.unread (title path) e

/-- How much of each input is wanted, and whether headings are. -/
structure Portion where
  lines : Bool := true
  amount : Nat := 10
  inverted : Bool := false
  headings : Option Bool := none
  lineEnd : Char := '\n'
  deriving Inhabited

def Portion.hasHeadings (p : Portion) (paths : List Octets) : Bool :=
  p.headings.getD (paths.length > 1)

def linesBy (lineEnd : Char) (s : Octets) : List Octets :=
  let ls := (Text.partsAt lineEnd s).map (· ++ [lineEnd])
  match ls.getLast? with
  | some l => ls.dropLast ++ (if l.length = 1 then [] else [l.dropLast])
  | none => []

/-- The first lines of a text, so many at most; also how many they are. -/
def firstLines (lineEnd : Char) : Nat → Octets → Octets × Nat
  | 0, _ => ([], 0)
  | _, [] => ([], 0)
  | n + 1, c :: cs =>
    if c == lineEnd then
      let (t, count) := firstLines lineEnd n cs
      (c :: t, count + 1)
    else
      let (t, count) := firstLines lineEnd (n + 1) cs
      (c :: t, count)

def pieceSize : Nat := 8192

/-- Writes the first lines of a channel and gives back what was read behind them. The first number bounds
the pieces. -/
def startLines (c : Call) (p : Portion) (channel : Nat) : Nat → Nat → Act (Option SystemError)
  | _, 0 => return none
  | 0, _ => return none
  | fuel + 1, n => do
    match ← Act.read channel pieceSize with
    | .ok [] => return none
    | .ok t => do
      let (wanted, count) := firstLines p.lineEnd n t
      c.put wanted
      if wanted.length < t.length || count = n then
        Act.giveBack channel (t.length - wanted.length)
        return none
      else startLines c p channel fuel (n - count)
    | .error .interrupted => startLines c p channel fuel n
    | .error e => return some e

def startBytes (c : Call) (channel : Nat) : Nat → Nat → Act (Option SystemError)
  | _, 0 => return none
  | 0, _ => return none
  | fuel + 1, n => do
    match ← Act.read channel (min n pieceSize) with
    | .ok [] => return none
    | .ok t => do
      c.put t
      startBytes c channel fuel (n - t.length)
    | .error .interrupted => startBytes c channel fuel n
    | .error e => return some e

def whole (channel : Nat) : Act (Except SystemError Octets) := do
  let (ts, failure) ← Call.foldPieces channel Call.pieceSize (fun ts t => return t :: ts)
    Act.manyPieces ([] : List Octets)
  return match failure with
    | some e => .error e
    | none => .ok ts.reverse.flatten

def startBefore (c : Call) (p : Portion) (channel : Nat) : Act (Option SystemError) := do
  match ← whole channel with
  | .error e => return some e
  | .ok t => do
    let kept := if p.lines then
        let ls := linesBy p.lineEnd t
        (ls.take (ls.length - p.amount)).flatten
      else t.take (t.length - p.amount)
    c.put kept
    Act.giveBack channel (t.length - kept.length)
    return none

def start (c : Call) (p : Portion) (channel : Nat) : Act (Option SystemError) :=
  if p.inverted then startBefore c p channel
  else if p.lines then startLines c p channel Act.manyPieces p.amount
  else startBytes c channel Act.manyPieces p.amount

def finish (c : Call) (p : Portion) (channel : Nat) : Act (Option SystemError) := do
  match ← whole channel with
  | .error e => return some e
  | .ok t => do
    let ls := if p.lines then linesBy p.lineEnd t else []
    let dropped := if p.inverted then p.amount - 1
      else if p.lines then ls.length - p.amount
      else t.length - p.amount
    c.put (if p.lines then (ls.drop dropped).flatten else t.drop dropped)
    return none

def parts (c : Call) (p : Portion) (write : Nat → Act (Option SystemError)) (paths : List Octets) :
    Bool → List Octets → Act Bool
  | _, [] => return true
  | isFirst, path :: rest => do
    match ← Call.openInput path with
    | .error e => do
      c.tell (excuses.unopened path e)
      discard (parts c p write paths isFirst rest)
      return false
    | .ok channel => do
      if p.hasHeadings paths then
        c.put ((if isFirst then [] else ['\n']) ++ "==> ".toList ++ title path ++ " <==\n".toList)
      let failure ← write channel
      Call.closeInput channel
      match failure with
      | none => parts c p write paths false rest
      | some e => do
        c.tell (excuses.unread path e)
        discard (parts c p write paths false rest)
        return false

def portionKnobs : List Knob :=
  [.valued 'c' "bytes", .valued 'n' "lines", .flag 'q' "quiet", .flag 'v' "verbose",
    .flag 'z' "zero-terminated"] ++ Knob.named ["silent"] ++ Knob.letters "0123456789"

def amountText (lines : Bool) : String :=
  if lines then "invalid number of lines" else "invalid number of bytes"

def Portion.adorn (p : Portion) (o : Choices) : Portion := { p with
  headings := match o.lastOf ["quiet", "silent", "verbose"] with
    | some (key, _) => some (key == "verbose")
    | none => p.headings
  lineEnd := if o.has "zero-terminated" then '\x00' else p.lineEnd }

def endInput (c : Call) (isLost : Bool) (status : Nat) : Act Nat := do
  if isLost then c.giveUp "-: Bad file descriptor".toList
  return status

/-- What the first word asks for if it is a hyphen with a number: the portion and the text of the
amount, or the letter that means nothing. -/
def shortStart (word : Octets) : Option (Except Char (Portion × Octets)) :=
  match word with
  | '-' :: d :: r =>
    if !d.isDigit then none
    else
      let ds := (d :: r).takeWhile Char.isDigit
      some (((d :: r).drop ds.length).foldlM (fun (p, t) l =>
        match l with
        | 'c' => .ok ({ p with lines := false }, ds)
        | 'b' | 'k' | 'm' => .ok ({ p with lines := false }, ds ++ [l])
        | 'l' => .ok ({ p with lines := true }, t)
        | 'q' => .ok ({ p with headings := some false }, t)
        | 'v' => .ok ({ p with headings := some true }, t)
        | 'z' => .ok ({ p with lineEnd := '\x00' }, t)
        | l => .error l) (({} : Portion), ds))
  | _ => none

def head : Utility := fun c => do
  let trailing {α : Type} (l : Char) : Act α := c.refuse ("invalid trailing option -- ".toList ++ [l])
  let (p, words) : Portion × List Octets ← match c.arguments with
    | [] => pure ({}, [])
    | w :: ws =>
      match shortStart w with
      | none => pure ({}, w :: ws)
      | some (.error l) => trailing l
      | some (.ok (p, t)) => do
        let amount ← Amount.demand c (amountText p.lines) t
        pure ({ p with amount }, ws)
  let o ← { c with arguments := words }.choices portionKnobs true
  match o.found.find? fun (key, _) => key.toList.all Char.isDigit with
  | some (key, _) => trailing (key.toList.headD '0')
  | none => pure ()
  let p ← o.found.foldlM (fun (p : Portion) (key, value) =>
    if key == "lines" || key == "bytes" then do
      let lines := key == "lines"
      let (inverted, t) := match value with
        | '-' :: r => (true, r)
        | r => (false, r)
      return { p with lines, inverted, amount := ← Amount.demand c (amountText lines) t }
    else pure p) p
  let p := p.adorn o
  let paths := Call.inputsOf o.operands
  let isLost := paths.contains ['-'] && (← Act.inspect 0).isNone
  let isFine ← parts c p (start c p) paths true paths
  endInput c isLost (if isFine then 0 else 1)

/-- What the first word asks for if it is a sign with a number, and the text of the amount. -/
def shortEnd (words : List Octets) : Option (Portion × Octets × Bool × List Octets) :=
  let fits := match words with
    | [_] => true
    | [_, p] => p == ['-', '-'] || !(p.head? == some '-' && p.length > 1)
    | [_, dashes, _] => dashes == ['-', '-']
    | _ => false
  match words with
  | (sign :: r) :: rest =>
    let isUsual := sign == '-' && (r.isEmpty || r == ['c'])
    if !fits || (sign != '+' && sign != '-') || isUsual then none
    else
      let ds := r.takeWhile Char.isDigit
      let more := r.drop ds.length
      let (lines, factor, more) := match more with
        | 'b' :: m => (false, 512, m)
        | 'c' :: m => (false, 1, m)
        | 'l' :: m => (true, 1, m)
        | m => (true, 1, m)
      let (follows, more) := match more with
        | 'f' :: m => (true, m)
        | m => (false, m)
      if !more.isEmpty then none
      else
        let t := if ds.isEmpty then Octets.ofNat (10 * factor) else ds ++ (if factor = 512 then ['b'] else [])
        some ({ lines, inverted := sign == '+' }, t, follows, rest)
  | _ => none

def followKnobs : List Knob :=
  [⟨some 'f', none, .nothing⟩, ⟨some 'F', none, .nothing⟩, ⟨none, some "follow", .perhaps⟩,
    .valued 's' "sleep-interval", ⟨none, some "pid", .something⟩, ⟨none, some "retry", .nothing⟩]

/-- Writes the ends of inputs. One that is followed is a file that nobody writes to. -/
def tail : Utility := fun c => do
  let (p, follows, words) : Portion × Bool × List Octets ← match shortEnd c.arguments with
    | some (p, t, follows, ws) => do
      let amount ← Amount.demand c (amountText p.lines) t
      pure ({ p with amount }, follows, ws)
    | none => pure ({}, false, c.arguments)
  let o ← { c with arguments := words }.choices (portionKnobs ++ followKnobs) true
  match o.found.find? fun (key, _) => key.toList.all Char.isDigit with
  | some (key, _) => c.giveUp ("option used in invalid context -- ".toList ++ key.toList)
  | none => pure ()
  let p ← o.found.foldlM (fun (p : Portion) (key, value) =>
    if key == "lines" || key == "bytes" then do
      let lines := key == "lines"
      let (inverted, t) := match value with
        | '+' :: r => (true, r)
        | '-' :: r => (p.inverted, r)
        | r => (p.inverted, r)
      return { p with lines, inverted, amount := ← Amount.demand c (amountText lines) t }
    else pure p) p
  let p := p.adorn o
  let follows := follows || o.has "follow" || o.has "f" || o.has "F"
  if p.amount = 0 && !p.inverted && !follows then return 0
  let paths := Call.inputsOf o.operands
  let isLost := paths.contains ['-'] && (← Act.inspect 0).isNone
  if isLost then c.tell "cannot fstat 'standard input': Bad file descriptor".toList
  let isFine ← parts c p (finish c p) (if isLost then [] else paths) true (if isLost then [] else paths)
  let isPiped := paths == [['-']] && (← Act.inspect 0) == some .pipe
  if follows && isFine && !isPiped then Act.hang
  endInput c isLost (if isFine then 0 else 1)

def writeAll (c : Call) (t : Octets) : List (Nat × Octets) → Act (List (Nat × Octets))
  | [] => return []
  | (channel, name) :: rest => do
    match ← Act.write channel t with
    | none => do return (channel, name) :: (← writeAll c t rest)
    | some e => do
      c.tell (name ++ ": ".toList ++ e.reason.toList)
      writeAll c t rest

def tee : Utility := fun c => do
  let o ← c.choices [.flag 'a' "append", .flag 'i' "ignore-interrupts", ⟨none, some "output-error", .perhaps⟩,
    ⟨some 'p', none, .nothing⟩] true
  if o.has "ignore-interrupts" then Act.respond Signal.interrupt .ignored
  if o.has "p" || o.has "output-error" then Act.respond Signal.pipe .ignored
  let opened ← o.operands.mapM fun path => do
    match ← Act.openFile path (.write (o.has "append")) with
    | .ok n => return some (n, Quotation.ifNeeded path)
    | .error e => do
      c.tellOf path e
      return none
  let targets := (1, "'standard output'".toList) :: opened.filterMap id
  let isLost := (← Act.inspect 0).isNone
  let (left, failure) ← Call.foldPieces 0 Call.pieceSize (fun left t => writeAll c t left)
    Act.manyPieces targets
  match failure with
  | some e => c.tell ("read error: ".toList ++ e.reason.toList)
  | none => pure ()
  if isLost then c.giveUp "standard input: Bad file descriptor".toList
  return if left.length = o.operands.length + 1 && failure.isNone then 0 else 1

end SmokeSuite.Stream
