import SmokeSuite.Shell.Builtin.Options
import SmokeSuite.Shell.Field
import SmokeSuite.Shell.Printing
import SmokeSuite.Shell.Test

namespace SmokeSuite.Shell.Builtin

def echo (ws : List Octets) : Run Nat := do
  Run.say (Shell.echo ws)
  return 0

def printf (ws : List Octets) : Run Nat := do
  match ← Options.none ws with
  | [] => Run.faultText "usage: printf format [arg ...]"
  | format :: arguments => do
    let st := Printf.run format arguments
    Run.say st.output
    for c in st.complaints do Run.warn c
    match st.fault with
    | some f => Run.fault f
    | none => return if st.complaints.isEmpty then 0 else 1

def test (isBracket : Bool) (ws : List Octets) : Run Nat := do
  let decided ← match if isBracket then Test.unbracketed ws else .ok ws with
    | .error f => pure (.error f)
    | .ok ws => do pure (Test.holds (← Run.ask (Test.World.ofWords ws)) ws)
  match decided with
  | .ok answer => return if answer then 0 else 1
  | .error f => Run.fault f.text

structure Line where
  /-- The stretches that are complete, the last one first. -/
  done : List Stretch := []
  current : List Cell := []

namespace Line

def put (l : Line) (c : Char) : Line := { l with current := .char c false :: l.current }

def complete (l : Line) : Line := { done := ⟨l.current.reverse, .fields⟩ :: l.done }

def putPlain (l : Line) (c : Char) : Line :=
  let l := l.complete
  { l with done := ⟨[.char c true], .none⟩ :: l.done }

def stretches (l : Line) : List Stretch := l.complete.done.reverse

end Line

/-- Reads a line byte by byte, and tells whether its end was there. A backslash takes the meaning from the
next character, and joins two lines, unless `raw` holds. -/
def readLine (raw : Bool) : Nat → Bool → Line → Run (Line × Bool)
  | 0, _, l => return (l, false)
  | fuel + 1, escaped, l => do
    match ← Run.ask (Act.read 0 1) with
    | .error .interrupted => do
      Run.poll
      if (← get).arrived.isEmpty then readLine raw fuel escaped l else return (l, false)
    | .error _ | .ok [] => return (l, false)
    | .ok (c :: _) =>
      if c == '\x00' then readLine raw fuel escaped l
      else if escaped then readLine raw fuel false (if c == '\n' then l else l.putPlain c)
      else if c == '\n' then return (l, true)
      else if c == '\\' && !raw then readLine raw fuel true l
      else readLine raw fuel false (l.put c)

/-- Sets variables to fields, and those without a field to nothing. -/
def setFields : List Octets → List (List Cell) → Run Unit
  | [], _ => pure ()
  | name :: names, fields => do
    Run.checkName name
    Run.setVariable name (Cell.text (fields.head?.getD []))
    setFields names (fields.drop 1)

def read (ws : List Octets) : Run Nat := do
  let (options, names) ← Options.read "r" "p" ws
  if names.isEmpty then Run.faultText "arg count"
  let (line, isComplete) ← readLine (options.any (·.1 == 'r')) Reading.pieces false {}
  let ifs := (← get).value? "IFS".toList
  setFields names (Field.splitLimited ifs names.length line.stretches)
  return if isComplete then 0 else 1

end SmokeSuite.Shell.Builtin
