import SmokeSuite.Shell.Builtin.Options
import SmokeSuite.Shell.Job

namespace SmokeSuite.Shell.Builtin

/-- The jobs whose ends are not known yet are asked about. The number bounds the children. -/
def pollJobs : Nat → Run Unit
  | 0 => pure ()
  | fuel + 1 => do
    match ← Run.collect false false with
    | .ended .. => pollJobs fuel
    | _ => pure ()

/-- The job that a word names: the current one, the one before it, or one by its number. Only jobs that
are controlled count if `controlled` holds, and there are none. -/
def findJob (word : Option Octets) (controlled : Bool) : Run Job := do
  let jobs := (← get).jobs
  let name := word.getD []
  let found : Except String Job :=
    let orElse (j : Option Job) (message : String) : Except String Job :=
      match j with
      | some j => .ok j
      | none => .error message
    match word with
    | none | some ['%'] | some ['%', '%'] | some ['%', '+'] => orElse jobs.head? "No current job"
    | some ['%', '-'] => orElse (jobs.drop 1).head? "No previous job"
    | some ('%' :: digits) =>
      orElse (jobs.find? fun j => Octets.toNat? digits == some j.number)
        ("No such job: " ++ String.ofList name)
    | some _ => .error ("No such job: " ++ String.ofList name)
  match found with
  | .error message => Run.faultText message
  | .ok j =>
    if controlled then Run.fault ("job ".toList ++ name ++ " not created under job control".toList)
    else return j

def endingText : Ending → Octets
  | .exited 0 => "Done".toList
  | .exited n => "Done(".toList ++ Octets.ofNat n ++ [')']
  | .signalled n => (Signal.text n).toList

def stateWidth : Nat := 33

/-- The text about a job. `current` are the job at hand and the one before it. -/
def jobText (current : List Nat) (withNumbers : Bool) (j : Job) : Octets :=
  let sign : Char :=
    if current.head? == some j.number then '+'
    else if (current.drop 1).head? == some j.number then '-' else ' '
  let start := '[' :: Octets.ofNat j.number ++ [']', ' ', sign, ' ']
  let numberOf (p : Nat × Option Ending) : Octets :=
    if withNumbers then Octets.ofNat p.1 ++ [' '] else []
  let state := if j.isRunning then "Running".toList
    else ((j.processes.getLast?.bind (·.2)).map endingText).getD []
  let padded (t : Octets) : Octets := t ++ List.replicate (max 1 (stateWidth - t.length)) ' '
  let first := padded (start ++ ((j.processes.head?.map numberOf).getD []) ++ state)
  let others := (j.processes.drop 1).flatMap fun p =>
    if withNumbers then '\n' :: padded (List.replicate start.length ' ' ++ numberOf p)
    else [' ', '|', ' ']
  first ++ others ++ ['\n']

def showJob (options : List (Char × Octets)) (j : Job) : Run Unit := do
  let current := (← get).jobs.map (·.number)
  match options.getLast?.map (·.1) with
  | some 'p' => Run.sayLine (Octets.ofNat ((j.processes.head?.map (·.1)).getD 0))
  | option => do
    Run.say (jobText current (option == some 'l') j)
    if !j.isRunning then modify fun s => { s with jobs := s.jobs.filter (·.number != j.number) }

def jobs (ws : List Octets) : Run Nat := do
  let (options, names) ← Options.read "lp" "" ws
  pollJobs Reading.pieces
  if names.isEmpty then for j in (← get).jobs do showJob options j
  else for name in names do showJob options (← findJob (some name) false)
  return 0

/-- Brings a job to the front or to the back, which only works where jobs are controlled. -/
def moveJob (ws : List Octets) : Run Nat := do
  let names ← Options.none ws
  discard (findJob names.head? true)
  return 0

def interrupted : Run Nat := do
  Run.poll
  return Signal.statusBase + ((← get).arrived.getLast?.getD 0)

/-- Waits for a job, or for all of them. Nothing comes of it if a signal arrives. -/
def waitFor (isMeant : Job → Bool) (tells : Bool) : Nat → Run Bool
  | 0 => return true
  | fuel + 1 => do
    if !(← get).jobs.any fun j => isMeant j && j.isRunning then
      modify fun s => { s with
        jobs := s.jobs.map fun j => if isMeant j then { j with isWaited := true } else j }
      return true
    match ← Run.collect true true with
    | .ended number e => do
      if tells && (← get).jobs.any fun j => isMeant j && j.has number then Run.tellEnding e
      waitFor isMeant tells fuel
    | .interrupted => return false
    | _ => return true

/-- Waits for each job that is named; what is not known leaves the status as it is. -/
def waitEach : Nat → List Octets → Run Nat
  | status, [] => return status
  | status, word :: rest => do
    let found ← if word.head? == some '%' then some <$> findJob (some word) false
      else do
        let n ← Run.count word
        pure ((← get).jobs.find? fun j => (j.processes.getLast?.map (·.1)) == some n)
    match found with
    | none => waitEach status rest
    | some j => do
      if ← waitFor (·.number == j.number) true Reading.pieces then
        let j := ((← get).jobs.find? (·.number == j.number)).getD j
        waitEach j.status rest
      else interrupted

def unknownStatus : Nat := 127

def wait (ws : List Octets) : Run Nat := do
  let words ← Options.none ws
  if words.isEmpty then
    if ← waitFor (fun _ => true) false Reading.pieces then return 0 else interrupted
  else waitEach unknownStatus words

/-- The signal that a word names, by number or by name; `first` is the first that may be named. -/
def signal? (word : Octets) (first : Nat) : Option Nat :=
  match Octets.toNat? word with
  | some n => if n ≤ Signal.last then some n else none
  | none => (Signal.ofName? word).filter (first ≤ ·)

def killUsage : String :=
  "Usage: kill [-s sigspec | -signum | -sigspec] [pid | job]... or\nkill -l [exitstatus]"

def listSignals (ws : List Octets) : Run Nat := do
  match ws with
  | [] =>
    Run.sayLine ['0']
    for n in (List.range Signal.last).map (· + 1) do Run.sayLine (Signal.name n).toList
  | word :: _ =>
    let n ← Run.count word
    let n := if n > Signal.statusBase then n - Signal.statusBase else n
    if 0 < n && n ≤ Signal.last then Run.sayLine (Signal.name n).toList
    else Run.fault ("invalid signal number or exit status: ".toList ++ word)
  return 0

/-- The process or the processes that a word means to a signal. A job is named by its first process, as if
that led a group of its own, which it does not. -/
def target (word : Octets) : Run (Option Int) := do
  match word with
  | '%' :: _ => do
    discard (findJob (some word) false)
    return none
  | '-' :: digits => return some (-(← Run.count digits))
  | digits => return some (← Run.count digits)

def sendAll (signal : Nat) : Nat → List Octets → Run Nat
  | status, [] => return status
  | status, word :: rest => do
    let failure ← match ← target word with
      | none => pure (some SystemError.noProcess)
      | some n => Run.ask (Act.signal n signal)
    match failure with
    | none => sendAll signal status rest
    | some e => do
      Run.warn (e.reason.toList ++ ['\n'])
      sendAll signal 1 rest

def kill (ws : List Octets) : Run Nat := do
  let named : Option Nat := match ws with
    | ('-' :: name) :: _ => signal? name 1
    | _ => none
  let (options, words) ← match named, ws with
    | some _, _ :: words => pure ([], words)
    | none, _ :: _ => do
      if (ws.head?.bind List.head?) == some '-' then Options.read "l" "s" ws else pure ([], ws)
    | _, [] => Run.faultText killUsage
  let chosen ← options.foldlM (fun chosen (letter, value) =>
    if letter == 's' then
      match signal? value 1 with
      | some n => pure (some n)
      | none => Run.fault ("invalid signal number or name: ".toList ++ value)
    else pure chosen) named
  if options.any (·.1 == 'l') then
    if chosen.isSome then Run.faultText killUsage else listSignals words
  else if words.isEmpty then Run.faultText killUsage
  else sendAll (chosen.getD Signal.terminate) 0 words

/-- Arranges what is done at signals, or takes it back if there is no action. -/
def setTraps (action : Option Octets) : List Octets → Run Nat
  | [] => return 0
  | word :: rest => do
    match signal? word 0 with
    | none => do
      discard (Run.write 2 ("trap: ".toList ++ word ++ ": bad trap\n".toList))
      return 1
    | some n => do
      modify fun s => { s with
        traps := (match action with
          | some action => [(n, action)]
          | none => []) ++ s.traps.filter (·.1 != n) }
      Run.arrange n
      setTraps action rest

def trap (ws : List Octets) : Run Nat := do
  match ← Options.none ws with
  | [] => do
    let traps := (← get).traps
    for n in List.range (Signal.last + 1) do
      match traps.lookup n with
      | some action =>
        Run.sayLine ("trap -- ".toList ++ singleQuoted action ++ ' ' :: (Signal.name n).toList)
      | none => pure ()
    return 0
  | first :: rest =>
    if rest.isEmpty || (Octets.toNat? first).any (· ≤ Signal.last) then setTraps none (first :: rest)
    else setTraps (if first == ['-'] then none else some first) rest

end SmokeSuite.Shell.Builtin
