import SmokeSuite.Files.Tree
import SmokeSuite.Kernel.Signal

namespace SmokeSuite

inductive Ending where
  | exited (status : Nat)
  | signalled (signal : Nat)
  deriving DecidableEq, Inhabited

/-- What a process does when a signal reaches it. -/
inductive Response where
  | standard
  | ignored
  | caught
  deriving DecidableEq, Inhabited

inductive Opening where
  | read
  /-- Makes the file if there is none, and empties it unless `appends`. -/
  | write (appends : Bool)
  /-- Makes the file, which must not be there. -/
  | create
  /-- Reads and writes; makes the file if there is none. -/
  | update
  deriving DecidableEq, Inhabited

inductive ChannelKind where
  | pipe
  | file (place : Location)
  | directory
  | device (d : Device)
  deriving DecidableEq, Inhabited

inductive Awaited where
  | ended (child : Nat) (ending : Ending)
  | running
  | noChild
  | interrupted
  deriving DecidableEq, Inhabited

/-- What a program may ask for. -/
inductive Request where
  /-- To go on after others had a chance; tells which signals arrived. -/
  | pause
  /-- At most so many bytes; none are left if the answer is empty. -/
  | read (channel limit : Nat)
  | write (channel : Nat) (text : Octets)
  | openFile (path : Octets) (how : Opening)
  | close (channel : Nat)
  | copy (source target : Nat)
  /-- To let a free number lead where another leads, but not for a program that takes this one's
  place. -/
  | keep (channel : Nat)
  | pipe
  | giveBack (channel amount : Nat)
  | inspect (channel : Nat)
  | wait (child : Option Nat) (blocks interruptible : Bool)
  | sleep (nanos : Option Nat)
  | signal (target : Int) (number : Nat)
  | lead
  | respond (signal : Nat) (how : Response)
  | responses
  | numbers
  | files
  | setFiles (tree : FileTree)
  | directory
  | setDirectory (place : Location)
  | become

@[reducible] def Request.Answer : Request → Type
  | .pause => List Nat
  | .read .. => Except SystemError Octets
  | .write .. => Option SystemError
  | .openFile .. => Except SystemError Nat
  | .close _ => Unit
  | .copy .. => Option SystemError
  | .keep _ => Option Nat
  | .pipe => Nat × Nat
  | .giveBack .. => Unit
  | .inspect _ => Option ChannelKind
  | .wait .. => Awaited
  | .sleep _ => Unit
  | .signal .. => Option SystemError
  | .lead => Unit
  | .respond .. => Unit
  | .responses => List (Nat × Response)
  | .numbers => Nat × Nat
  | .files => FileTree
  | .setFiles _ => Unit
  | .directory => Location
  | .setDirectory _ => Unit
  | .become => Unit

inductive Program where
  | exit (status : Nat)
  | ask (r : Request) (next : r.Answer → Program)
  | fork (child : Program) (next : Nat → Program)

instance : Inhabited Program := ⟨.exit 0⟩

/-- How the programs of a machine start: by name, with words, of which the first is what the program is
called by, and with an environment. -/
abbrev Launcher := Octets → List Octets → List (Octets × Octets) → Program

/-- A part of a program: it asks for things until it has a result. -/
def Act (α : Type) : Type := (α → Program) → Program

namespace Act

instance : Monad Act where
  pure a := fun k => k a
  bind x f := fun k => x fun a => f a k

instance : LawfulMonad Act :=
  LawfulMonad.mk' Act (fun _ => rfl) (fun _ _ => rfl) (fun _ _ _ => rfl)

instance {α : Type} : Inhabited (Act α) := ⟨fun _ => .exit 0⟩

def run (x : Act Nat) : Program := x .exit

def exit {α : Type} (status : Nat) : Act α := fun _ => .exit status

def fork (child : Program) : Act Nat := Program.fork child

def pause : Act (List Nat) := Program.ask .pause

def read (channel limit : Nat) : Act (Except SystemError Octets) := Program.ask (.read channel limit)

def write (channel : Nat) (text : Octets) : Act (Option SystemError) :=
  if text.isEmpty then pure none else Program.ask (.write channel text)

def openFile (path : Octets) (how : Opening) : Act (Except SystemError Nat) :=
  Program.ask (.openFile path how)

def close (channel : Nat) : Act Unit := Program.ask (.close channel)

def copy (source target : Nat) : Act (Option SystemError) := Program.ask (.copy source target)

def keep (channel : Nat) : Act (Option Nat) := Program.ask (.keep channel)

def pipe : Act (Nat × Nat) := Program.ask .pipe

def giveBack (channel amount : Nat) : Act Unit := Program.ask (.giveBack channel amount)

def inspect (channel : Nat) : Act (Option ChannelKind) := Program.ask (.inspect channel)

def wait (child : Option Nat) (blocks interruptible : Bool) : Act Awaited :=
  Program.ask (.wait child blocks interruptible)

def sleep (nanos : Option Nat) : Act Unit := Program.ask (.sleep nanos)

def signal (target : Int) (number : Nat) : Act (Option SystemError) := Program.ask (.signal target number)

def lead : Act Unit := Program.ask .lead

def respond (signal : Nat) (how : Response) : Act Unit := Program.ask (.respond signal how)

def responses : Act (List (Nat × Response)) := Program.ask .responses

def numbers : Act (Nat × Nat) := Program.ask .numbers

def files : Act FileTree := Program.ask .files

def setFiles (tree : FileTree) : Act Unit := Program.ask (.setFiles tree)

def directory : Act Location := Program.ask .directory

def setDirectory (place : Location) : Act Unit := Program.ask (.setDirectory place)

def become : Act Unit := Program.ask .become

def pieceSize : Nat := 4096

def manyPieces : Nat := 1000000000

/-- All that can be read, behind the pieces that were read before. The number bounds the pieces. -/
def readAllAfter (channel : Nat) : Nat → List Octets → Act Octets
  | 0, taken => pure taken.reverse.flatten
  | fuel + 1, taken => do
    match ← read channel pieceSize with
    | .ok [] => pure taken.reverse.flatten
    | .ok t => readAllAfter channel fuel (t :: taken)
    | .error .interrupted => readAllAfter channel fuel taken
    | .error _ => pure taken.reverse.flatten

def readAll (channel : Nat) : Act Octets := readAllAfter channel manyPieces []

def hang {α : Type} : Act α := fun _ => Program.ask (.sleep none) fun _ => .exit 0

end Act

end SmokeSuite
