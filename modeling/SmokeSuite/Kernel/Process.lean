import SmokeSuite.Kernel.Program

namespace SmokeSuite

/-- Bytes on their way from those who write to those who read. -/
structure Pipe where
  front : Octets := []
  back : List Octets := []
  size : Nat := 0
  deriving Inhabited

namespace Pipe

def capacity : Nat := 65536

def atomicSize : Nat := 4096

def ofText (t : Octets) : Pipe := { front := t, size := t.length }

def push (p : Pipe) (t : Octets) : Pipe := { p with back := t :: p.back, size := p.size + t.length }

def take (p : Pipe) (limit : Nat) : Octets × Pipe :=
  let p := if (p.front.drop (limit - 1)).isEmpty then
      { p with front := p.front ++ p.back.reverse.flatten, back := [] }
    else p
  let t := p.front.take limit
  (t, { p with front := p.front.drop limit, size := p.size - t.length })

def room (p : Pipe) (length : Nat) : Nat :=
  let free := capacity - p.size
  if length ≤ free then length else if length ≤ atomicSize then 0 else free

end Pipe

inductive Target where
  | pipe (number : Nat) (writes : Bool)
  | file (place : Location)
  | lost (content : List UInt8)
  | directory
  | device (d : Device)
  | output (number : Nat)
  deriving DecidableEq, Inhabited

structure Opened where
  target : Target
  position : Nat := 0
  appends : Bool := false
  deriving Inhabited

structure Channel where
  number : Nat
  opened : Nat
  isPrivate : Bool := false
  deriving DecidableEq, Inhabited

structure Process where
  number : Nat
  parent : Nat
  group : Nat
  program : Program
  channels : List Channel
  directory : Location
  responses : List (Nat × Response) := []
  /-- The signals that arrived and that the program was not told yet. -/
  arrived : List Nat := []
  wakesAt : Option Nat := none
  isStopped : Bool := false
  deriving Inhabited

namespace Process

def firstPrivate : Nat := 10

def channel? (p : Process) (number : Nat) : Option Channel :=
  p.channels.find? (·.number == number)

def setChannel (p : Process) (c : Channel) : Process :=
  { p with channels := c :: p.channels.filter (·.number != c.number) }

def dropChannel (p : Process) (number : Nat) : Process :=
  { p with channels := p.channels.filter (·.number != number) }

def freeNumber (p : Process) (start : Nat) : Nat :=
  let taken := p.channels.map (·.number)
  ((List.range (taken.length + 1)).map (start + ·)).find? (fun n => !taken.contains n) |>.getD start

def response (p : Process) (signal : Nat) : Response :=
  if Signal.isArrangeable signal then (p.responses.lookup signal).getD .standard else .standard

/-- Whether a target names a process: a positive one by its number, zero by the group of the sender, minus
one each but the sender, and other negative ones by a group. -/
def isMeant (p sender : Process) (target : Int) : Bool :=
  if 0 < target then target == p.number
  else if target = 0 then p.group == sender.group
  else if target = -1 then p.number != sender.number
  else -target == p.group

def receive (p : Process) (signal : Nat) : Option Process :=
  let p := if signal = Signal.resume then { p with isStopped := false } else p
  match p.response signal with
  | .ignored => some p
  | .caught => some (if p.arrived.contains signal then p
    else { p with arrived := p.arrived ++ [signal] })
  | .standard =>
    match Signal.effect signal with
    | .ends => none
    | .stops => some { p with isStopped := true }
    | .resumes | .passes => some p

def become (p : Process) : Process :=
  { p with
    channels := p.channels.filter (!·.isPrivate)
    responses := p.responses.filter (·.2 == .ignored)
    arrived := [] }

end Process

end SmokeSuite
