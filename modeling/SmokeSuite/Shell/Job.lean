import SmokeSuite.Kernel.Signal
import SmokeSuite.Shell.Session

namespace SmokeSuite.Shell

def statusOf : Ending → Nat
  | .exited n => n
  | .signalled n => Signal.statusBase + n

namespace Job

def status (j : Job) : Nat := ((j.processes.getLast?.bind (·.2)).map statusOf).getD 0

def has (j : Job) (number : Nat) : Bool := j.processes.any (·.1 == number)

def setEnding (j : Job) (number : Nat) (e : Ending) : Job :=
  { j with processes := j.processes.map fun p => if p.1 == number then (number, some e) else p }

end Job

namespace Run

/-- Tells about a child that a signal ended; some signals are passed over. -/
def tellEnding : Ending → Run Unit
  | .signalled n =>
    if n = Signal.interrupt || n = Signal.pipe then pure ()
    else discard (write 2 ((Signal.text n).toList ++ ['\n']))
  | .exited _ => pure ()

def collect (blocks interruptible : Bool) : Run Awaited := do
  let found ← ask (Act.wait none blocks interruptible)
  match found with
  | .ended number e =>
    modify fun s => { s with jobs := s.jobs.map fun j => if j.has number then j.setEnding number e else j }
  | _ => pure ()
  return found

/-- Waits for all of some processes; the status is that of the last one. -/
def awaitAll : Nat → List Nat → Nat → Nat → Run Nat
  | 0, _, _, status => return status
  | fuel + 1, running, last, status => do
    if running.isEmpty then return status
    match ← collect true false with
    | .ended number e =>
      if running.contains number then
        tellEnding e
        awaitAll fuel (running.filter (· != number)) last
          (if number = last then statusOf e else status)
      else awaitAll fuel running last status
    | _ => return status

def await (numbers : List Nat) : Run Nat :=
  awaitAll Reading.pieces numbers (numbers.getLast?.getD 0) 0

/-- A number for a new job: the first one that is free. A job that ended and was asked about gives its
number up. -/
def jobNumber : Run Nat := do
  let jobs := (← get).jobs
  let isTaken (n : Nat) : Bool := jobs.any fun j => j.number == n && (j.isRunning || !j.isWaited)
  let n := ((List.range (jobs.length + 1)).map (· + 1)).find? (!isTaken ·) |>.getD 1
  modify fun s => { s with jobs := s.jobs.filter (·.number != n) }
  return n

def forkAwait (x : Run Nat) : Run Nat := do
  discard jobNumber
  await [← fork x]

def addJob (number : Nat) (processes : List Nat) : Run Unit := modify fun s => { s with
  jobs := { number, processes := processes.map (·, none) } :: s.jobs
  lastJob := processes.getLast?.or s.lastJob }

def becomeChild : Run Unit := do
  clearTraps
  modify fun s => { s with jobs := [], channels := [] }

def becomeBackground (readsNothing : Bool) : Run Unit := do
  for signal in [Signal.interrupt, Signal.quit] do
    ask (Act.respond signal .ignored)
  modify fun s => { s with ignored := Signal.interrupt :: Signal.quit :: s.ignored }
  if readsNothing then
    ask (Act.close 0)
    discard (ask (Act.openFile "/dev/null".toList .read))

end Run

end SmokeSuite.Shell
