import SmokeSuite.Kernel.Process
import SmokeSuite.Text.Quotation

namespace SmokeSuite

structure Call where
  name : Octets
  arguments : List Octets
  environment : List (Octets × Octets)
  launch : Launcher
  /-- Its status when it cannot do what it should. -/
  failure : Nat := 1

abbrev Utility := Call → Act Nat

namespace Call

def tell (c : Call) (t : Octets) : Act Unit := discard (Act.write 2 (Octets.remark c.name t))

def tellOf (c : Call) (path : Octets) (e : SystemError) : Act Unit :=
  c.tell (Quotation.ifNeeded path ++ ": ".toList ++ e.reason.toList)

def giveUp {α : Type} (c : Call) (t : Octets) : Act α := do
  c.tell t
  Act.exit c.failure

def refuse {α : Type} (c : Call) (t : Octets) : Act α := do
  c.tell t
  discard (Act.write 2
    ("Try '".toList ++ c.name ++ " --help' for more information.\n".toList))
  Act.exit c.failure

def missingOperand {α : Type} (c : Call) : Act α := c.refuse "missing operand".toList

def extraOperand {α : Type} (c : Call) (word : Octets) : Act α :=
  c.refuse ("extra operand ".toList ++ Quotation.word word)

/-- Writes to the output, and ends if that does not work; `label` tells what could not be written. -/
def putAs (c : Call) (label : String) (t : Octets) : Act Unit := do
  match ← Act.write 1 t with
  | none => pure ()
  | some e => c.giveUp (label.toList ++ ": ".toList ++ e.reason.toList)

def put (c : Call) (t : Octets) : Act Unit := c.putAs "write error" t

def answer (c : Call) (t : Octets) : Act Nat := do
  c.put t
  return 0

def lookup? (c : Call) (name : String) : Option Octets := c.environment.lookup name.toList

/-- Does something for each of some operands; the status tells whether all went well. -/
def forEach (f : Octets → Act Bool) : List Octets → Act Nat
  | [] => return 0
  | w :: ws => do
    let isFine ← f w
    let status ← forEach f ws
    return if isFine then status else 1

end Call

end SmokeSuite
