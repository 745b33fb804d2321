import SmokeSuite.Shell.Reader
import SmokeSuite.Shell.Redirection
import SmokeSuite.Shell.Job

namespace SmokeSuite.Shell

/-- What the surroundings of a command ask of it. -/
structure Flags where
  /-- Whether somebody looks at the status, so that a failure ends nothing. -/
  isTested : Bool := false
  /-- Whether the shell has nothing else to do afterwards. -/
  exits : Bool := false
  deriving DecidableEq, Inhabited

/-- How commands are evaluated, and how programs start that take the place of the shell. -/
structure Evaluator where
  evaluate : Flags → Command → Run Nat
  launch : Launcher

namespace Script

def pieceSize : Nat := 8192

/-- A script: what was read of it, and where more comes from. -/
structure Feed where
  source : Source
  channel : Option Nat := none
  isShown : Bool := false

def Feed.ofText (text : Octets) : Feed := { source := { ahead := text.filter (· != '\x00') } }

def consumed (before after : Octets) : Octets :=
  let t := before.take (before.length - after.length)
  if t.getLast?.all (· == '\n') then t
  else t ++ after.takeWhile (· != '\n') ++ (if after.contains '\n' then ['\n'] else [])

/-- Whether a script may go on where all that was read of it is used. -/
def wantsMore (s : Source) (isFaulty : Bool) : Bool :=
  s.ahead.isEmpty && (isFaulty || match s.kept with
    | some .end => true
    | _ => false)

/-- Reads the next line of commands. More of the script is read when it ends too early. The number bounds
the pieces. -/
def next : Nat → Feed → Run (Option Command × Feed)
  | 0, f => return (none, f)
  | fuel + 1, f => do
    let s ← get
    let source := { f.source with
      aliases := s.aliases, documents := s.documents, lastDocument := s.lastDocument }
    let result := source.readLine
    let (after, isFaulty) := match result with
      | .ok (_, after) => (after, false)
      | .error (_, after) => (after, true)
    match if wantsMore after isFaulty then f.channel else none with
    | some channel => do
      match ← Run.ask (Act.read channel pieceSize) with
      | .error .interrupted => do
        Run.poll
        next fuel f
      | .error _ | .ok [] => next fuel { f with channel := none }
      | .ok t =>
        next fuel { f with source := { f.source with
          ahead := f.source.ahead ++ t.filter (· != '\x00') } }
    | none => do
      modify fun s => { s with
        documents := after.documents, lastDocument := after.lastDocument, readerLine := after.line }
      if f.isShown && s.isOn .verbose then
        discard (Run.write 2 (consumed source.ahead after.ahead))
      match result with
      | .ok (c, after) => return (c, { f with source := after })
      | .error (fault, after) => Run.syntaxFault fault after.line

/-- Runs commands up to the end of a script, or until something is skipped. The last command is the last
thing that the shell does if `flags` say so, which shows only where a script ends without a line end. -/
def runFrom (e : Evaluator) (flags : Flags) : Nat → Nat → Feed → Run Nat
  | 0, status, _ => return status
  | fuel + 1, status, f => do
    match ← next Reading.pieces f with
    | (none, _) => return status
    | (some c, f) => do
      let isLast := match f.source.kept with
        | some .end => true
        | _ => false
      let found ← e.evaluate { flags with exits := flags.exits && isLast } c
      let status := match c with
        | .nothing => status
        | _ => found
      if (← get).skip.isSome then return status else runFrom e flags fuel status f

def runText (e : Evaluator) (flags : Flags) (text : Octets) : Run Nat := do
  let line := (← get).readerLine
  modify fun s => { s with readerLine := 1 }
  Run.ensure (runFrom e flags Reading.pieces 0 (.ofText text))
    (modify fun s => { s with readerLine := line })

/-- Runs a script that is a file; leaving it is possible as if it were a function. -/
def runFeed (e : Evaluator) (f : Feed) : Run Nat := do
  let line := (← get).readerLine
  modify fun s => { s with readerLine := 1 }
  let status ← Run.ensure (runFrom e {} Reading.pieces 0 f)
    (modify fun s => { s with readerLine := line })
  modify fun s => { s with skip := match s.skip with
    | some (.function _) => none
    | skip => skip }
  return status

/-- Does what is to be done at signals that arrived. The status is the same afterwards, unless a function
was left with another one. Nothing is done while something is skipped. -/
def answer (e : Evaluator) (status : Nat) : List Nat → Run Unit
  | [] => pure ()
  | n :: rest => do
    if (← get).skip.isNone then
      modify fun s => { s with arrived := s.arrived.filter (· != n) }
      match (← get).traps.lookup n with
      | none => pure ()
      | some action => do
        discard (runText e {} action)
        match (← get).skip with
        | some (.function false) => pure ()
        | _ => modify fun s => { s with status }
      answer e status rest

def answerSignals (e : Evaluator) : Run Unit := do
  Run.poll
  let s ← get
  if !s.arrived.isEmpty then
    let status := s.exitStatus.getD s.status
    modify fun s => { s with exitStatus := some status }
    answer e status (s.arrived.mergeSort (· ≤ ·))
    modify fun t => { t with exitStatus := s.exitStatus }

/-- Settles the status when the shell was left: `exit` may have named another one. -/
def settleStatus (byExit : Bool) : Run Unit := do
  let skip := (← get).skip
  modify fun s => { s with
    status := match s.exitStatus with
      | some n => if byExit || skip == some (.function true) then n else s.status
      | none => s.status
    exitStatus := none, skip := none, loopDepth := 0, isTracing := false }
  for _ in (← get).channels do Redirection.popChannels false

def conclude (e : Evaluator) (x : Run Nat) : Run Nat := do
  let byExit ← tryCatch (do discard x; return true) fun e => return e == .exit
  settleStatus byExit
  let s ← get
  match s.traps.lookup 0 with
  | none => pure ()
  | some action => do
    modify fun s => { s with exitStatus := some s.status, traps := s.traps.filter (·.1 != 0) }
    let byExit ← tryCatch (do discard (runText e {} action); return true) fun e => return e == .exit
    settleStatus byExit
  return (← get).status

def childOf (e : Evaluator) (isTested : Bool) (c : Command) : Run Nat :=
  conclude e do
    Run.becomeChild
    e.evaluate { isTested, exits := true } c

def commands (e : Evaluator) : Expansion.Commands :=
  { child := childOf e false
    await := fun n => do
      discard Run.jobNumber
      Run.await [n] }

end Script

end SmokeSuite.Shell
