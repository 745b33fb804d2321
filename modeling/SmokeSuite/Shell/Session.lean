import SmokeSuite.Shell.Setting
import SmokeSuite.Shell.Source
import SmokeSuite.Shell.Variable
import SmokeSuite.Kernel.Program
import SmokeSuite.Text.Integer

namespace SmokeSuite.Shell

/-- What is not carried out until a loop or a function ends. -/
inductive Skip where
  /-- So many loops are left; the last of them may begin its next round. -/
  | loops (count : Nat) (again : Bool)
  /-- A function or a file is left; `isBare` tells that no status was given. -/
  | function (isBare : Bool)
  deriving DecidableEq, Inhabited

structure Job where
  number : Nat
  processes : List (Nat × Option Ending)
  isWaited : Bool := false
  deriving DecidableEq, Inhabited

def Job.isRunning (j : Job) : Bool := j.processes.any (·.2.isNone)

/-- What a function changed and what is put back when it ends. -/
inductive Saved where
  | variable (name : Octets) (before : Option Variable)
  | settings (before : Settings)
  deriving DecidableEq, Inhabited

/-- How far `getopts` went through the arguments: the number of the next one, and the place in it. -/
structure OptionPlace where
  index : Nat := 1
  offset : Option Nat := none
  deriving DecidableEq, Inhabited

structure Session where
  name : Octets
  number : Nat
  table : Variables := []
  arguments : List Octets := []
  optionPlace : OptionPlace := {}
  functions : List (Octets × Command) := []
  aliases : List (Octets × Octets) := []
  settings : Settings := []
  status : Nat := 0
  /-- The status that `exit` gives without an argument, where it is another one. -/
  exitStatus : Option Nat := none
  outputStatus : Nat := 0
  line : Nat := 1
  readerLine : Nat := 1
  command : Option Octets := none
  loopDepth : Nat := 0
  functionDepth : Nat := 0
  skip : Option Skip := none
  /-- What is done when a signal arrives; nothing is done if the text is empty. Signal zero is the end
  of the shell. -/
  traps : List (Nat × Octets) := []
  /-- The signals that arrived and were not answered. -/
  arrived : List Nat := []
  ignored : List Nat := []
  jobs : List Job := []
  lastJob : Option Nat := none
  scopes : List (List Saved) := []
  channels : List (List (Nat × Option Nat)) := []
  documents : List (Nat × Word) := []
  lastDocument : Nat := 0
  traceChannel : Nat := 2
  isTracing : Bool := false
  remembered : List (Octets × Octets) := []
  creationMask : Nat := 18
  place : Octets := []
  output : List Octets := []
  deriving Inhabited

namespace Session

def isOn (s : Session) (o : Setting) : Bool := s.settings.isOn o

def value? (s : Session) (name : Octets) : Option Octets := s.table.value? name

end Session

inductive Escape where
  | fault
  | exit
  | finish
  deriving DecidableEq, Inhabited

abbrev Run := ExceptT Escape (StateT Session Act)

namespace Run

def ask {α : Type} (x : Act α) : Run α := fun s k => x fun a => k (.ok a, s)

def program (x : Run Nat) (s : Session) : Program :=
  x s fun (r, s) => .exit (match r with
    | .ok n => n
    | .error _ => s.status)

def fork (x : Run Nat) : Run Nat := fun s k => Program.fork (program x s) fun n => k (.ok n, s)

def ensure {α : Type} (x : Run α) (last : Run Unit) : Run α := do
  let a ← tryCatch x fun e => do
    last
    throw e
  last
  return a

def orElse {α : Type} (x : Run α) (y : Run α) : Run α :=
  tryCatch x fun e => match e with
    | .fault => y
    | e => throw e

def write (channel : Nat) (t : Octets) : Run (Option SystemError) := ask (Act.write channel t)

def heading : Run Octets := do
  let s ← get
  let command := match s.command with
    | some c => c ++ [':', ' ']
    | none => []
  return s.name ++ [':', ' '] ++ Octets.ofNat s.line ++ [':', ' '] ++ command

def warn (t : Octets) : Run Unit := do discard (write 2 ((← heading) ++ t ++ ['\n']))

def say (t : Octets) : Run Unit := modify fun s => { s with output := t :: s.output }

def sayLine (t : Octets) : Run Unit := say (t ++ ['\n'])

/-- Writes the output of a command of the shell; tells whether it could be written. -/
def flush : Run Bool := do
  let t := (← get).output.reverse.flatten
  modify fun s => { s with output := [] }
  return (← write 1 t).isNone

def fault {α : Type} (t : Octets) : Run α := do
  warn t
  modify fun s => { s with status := 2 }
  throw .fault

def faultText {α : Type} (t : String) : Run α := fault t.toList

def syntaxFault {α : Type} (f : Fault) (line : Nat) : Run α := do
  modify fun s => { s with line }
  faultText f.message

def count (word : Octets) : Run Nat :=
  match Integer.count? word with
  | some n => return n
  | none => fault ("Illegal number: ".toList ++ word)

def notice (name value : Octets) : Run Unit := do
  if name == "OPTIND".toList then
    let n ← count value
    modify fun s => { s with optionPlace := { index := max n 1 } }
  else if name == "PATH".toList then modify fun s => { s with remembered := [] }

def assign (name value : Octets) (isExported isConstant : Bool) : Run Unit := do
  let s ← get
  let before := (s.table.find? name).getD { name, value := none }
  if before.isConstant then fault (name ++ ": is read only".toList)
  notice name value
  let isExported := before.isExported || isExported || s.isOn .allexport
  modify fun s => { s with
    table := s.table.put { before with
      value := some value, isExported, isConstant := before.isConstant || isConstant } }

def setVariable (name value : Octets) : Run Unit := assign name value false false

def unset (name : Octets) : Run Unit := do
  if (← get).table.isConstant name then fault (name ++ ": is read only".toList)
  notice name []
  modify fun s => { s with table := s.table.unset name }

def checkName (name : Octets) : Run Unit := do
  if !isName name then fault (name ++ ": bad variable name".toList)

def pushScope : Run Unit := modify fun s => { s with scopes := [] :: s.scopes }

def save (saved : Saved) : Run Unit := modify fun s => { s with
  scopes := match s.scopes with
    | scope :: scopes => (saved :: scope) :: scopes
    | [] => [] }

/-- Keeps a variable for the end of the scope, and sets it if there is a value. -/
def makeLocal (name : Octets) (value : Option Octets) (isExported : Bool) : Run Unit := do
  let before := (← get).table.find? name
  match before with
  | some v => do
    save (.variable name before)
    modify fun s => { s with table := s.table.put { v with isFixed := true } }
    match value with
    | some value => assign name value isExported false
    | none => pure ()
  | none => do
    checkName name
    modify fun s => { s with
      table := s.table.put { name, value := none, isExported, isFixed := true } }
    match value with
    | some value => assign name value isExported false
    | none => pure ()
    save (.variable name none)

def restore (saved : Saved) : Run Unit :=
  match saved with
  | .settings before => modify fun s => { s with settings := before }
  | .variable name none => modify fun s => { s with table := s.table.remove name }
  | .variable name (some v) => do
    Run.orElse (notice name (v.value.getD ['1'])) (pure ())
    modify fun s => { s with table := s.table.put v }

def popScopes (left : Nat) : Run Unit := do
  let scopes := (← get).scopes
  modify fun s => { s with scopes := scopes.drop (scopes.length - left) }
  for saved in (scopes.take (scopes.length - left)).flatten do restore saved

def poll : Run Unit := do
  let signals ← ask Act.pause
  if !signals.isEmpty then
    modify fun s => { s with arrived := s.arrived ++ signals.filter (!s.arrived.contains ·) }

def hasTraps : Run Bool := do return (← get).traps.any (!·.2.isEmpty)

def arrange (signal : Nat) : Run Unit := do
  let s ← get
  if signal != 0 && !s.ignored.contains signal then
    ask (Act.respond signal (match s.traps.lookup signal with
      | none => .standard
      | some action => if action.isEmpty then .ignored else .caught))

/-- Forgets what was to be done at signals, as a child of the shell does. What is ignored stays so. -/
def clearTraps : Run Unit := do
  let actions := (← get).traps.filter (!·.2.isEmpty)
  modify fun s => { s with traps := s.traps.filter (·.2.isEmpty) }
  for (signal, _) in actions do arrange signal

end Run

end SmokeSuite.Shell
