import SmokeSuite.Utility.Choices

namespace SmokeSuite

/-- What a program does with text that comes in pieces: something is known so far, and each piece makes
some output and more knowledge. -/
structure Sieve (σ : Type) where
  start : σ
  piece : σ → Octets → Octets × σ
  last : σ → Octets := fun _ => []

namespace Sieve

/-- Works on whole lines, with their ends; the last one may lack its end. `hold` is the start of a line
whose end was not read. -/
def ofLines {σ : Type} (start : σ) (line : σ → Octets → Octets × σ) (last : σ → Octets) :
    Sieve (Octets × σ) where
  start := ([], start)
  piece := fun (hold, s) t =>
    if !t.contains '\n' then ([], (hold ++ t, s))
    else
      let ls := Octets.lines (hold ++ t)
      let rest := (ls.getLast?.filter fun l => l.getLast? != some '\n').getD []
      let whole := if rest.isEmpty then ls else ls.dropLast
      let (out, s) := whole.foldl (fun (out, s) l =>
        let (o, s) := line s l
        (o :: out, s)) (([] : List Octets), s)
      (out.reverse.flatten, (rest, s))
  last := fun (hold, s) =>
    if hold.isEmpty then last s
    else
      let (o, s) := line s hold
      o ++ last s

end Sieve

namespace Call

def pieceSize : Nat := 65536

/-- Goes on with each piece that can be read from a channel. The number bounds the pieces. -/
def foldPieces {σ : Type} (channel limit : Nat) (f : σ → Octets → Act σ) :
    Nat → σ → Act (σ × Option SystemError)
  | 0, s => return (s, none)
  | fuel + 1, s => do
    match ← Act.read channel limit with
    | .ok [] => return (s, none)
    | .ok t => do foldPieces channel limit f fuel (← f s t)
    | .error .interrupted => foldPieces channel limit f fuel s
    | .error e => return (s, some e)

def openInput (path : Octets) : Act (Except SystemError Nat) :=
  if path == ['-'] then pure (.ok 0) else Act.openFile path .read

def closeInput (channel : Nat) : Act Unit := do if channel != 0 then Act.close channel

/-- What is said of a path that cannot be opened, and of one that cannot be read. -/
structure Excuses where
  unopened : Octets → SystemError → Octets
  unread : Octets → SystemError → Octets

namespace Excuses

def plain : Excuses :=
  let text (path : Octets) (e : SystemError) : Octets :=
    Quotation.ifNeeded path ++ ": ".toList ++ e.reason.toList
  { unopened := text, unread := text }

def wordy : Excuses :=
  { unopened := fun path e => "cannot open ".toList ++ Quotation.always path ++
      " for reading: ".toList ++ e.reason.toList
    unread := fun path e => "error reading ".toList ++ Quotation.always path ++ ": ".toList ++
      e.reason.toList }

end Excuses

/-- Goes on with each piece of one input; tells whether all went well. -/
def foldInput {σ : Type} (c : Call) (excuses : Excuses) (f : σ → Octets → Act σ) (path : Octets)
    (s : σ) : Act (σ × Bool) := do
  match ← openInput path with
  | .error e => do
    c.tell (excuses.unopened path e)
    return (s, false)
  | .ok channel => do
    let (s, failure) ← foldPieces channel pieceSize f Act.manyPieces s
    closeInput channel
    match failure with
    | none => return (s, true)
    | some e => do
      c.tell (excuses.unread path e)
      return (s, false)

def foldInputs {σ : Type} (c : Call) (excuses : Excuses) (f : σ → Octets → Act σ) :
    List Octets → σ → Act (σ × Bool)
  | [], s => return (s, true)
  | path :: paths, s => do
    let (s, isFine) ← c.foldInput excuses f path s
    let (s, areFine) ← foldInputs c excuses f paths s
    return (s, isFine && areFine)

def inputsOf (operands : List Octets) : List Octets := if operands.isEmpty then [['-']] else operands

def pour {σ : Type} (c : Call) (excuses : Excuses) (sieve : Sieve σ) (operands : List Octets) :
    Act Nat := do
  let step (s : σ) (t : Octets) : Act σ := do
    let (out, s) := sieve.piece s t
    c.put out
    return s
  let (s, areFine) ← c.foldInputs excuses step (inputsOf operands) sieve.start
  c.put (sieve.last s)
  return if areFine then 0 else c.failure

def readInput (c : Call) (excuses : Excuses) (path : Octets) : Act (Octets × Bool) := do
  let (ts, isFine) ← c.foldInput excuses (fun ts t => return t :: ts) path ([] : List Octets)
  return (ts.reverse.flatten, isFine)

end Call

end SmokeSuite
