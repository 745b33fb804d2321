import SmokeSuite.Shell.Arithmetic
import SmokeSuite.Shell.Field
import SmokeSuite.Shell.Session

namespace SmokeSuite.Shell

structure Manner where
  splits : Bool := false
  isQuoted : Bool := false
  /-- Whether the part stands in for a value, so that its own text is split too. -/
  isInner : Bool := false
  tildeAtStart : Bool := false
  tildeInside : Bool := false

namespace Manner

def fields : Manner := { splits := true, tildeAtStart := true }

def value : Manner := { tildeAtStart := true, tildeInside := true }

def whole : Manner := { tildeAtStart := true }

def document : Manner := { isQuoted := true }

end Manner

namespace Expansion

def usersFile : String := "/etc/passwd"

def userDirectory? (files : FileTree) (user : Octets) : Option Octets :=
  match files.readBytes [] usersFile with
  | .error _ => none
  | .ok bytes => (Octets.lines (Octets.ofBytes bytes)).findSome? fun l =>
    match Text.partsAt ':' (l.takeWhile (· != '\n')) with
    | name :: _ :: _ :: _ :: _ :: directory :: _ => if name == user then some directory else none
    | _ => none

def home? (user : Octets) : Run (Option Octets) := do
  if user.isEmpty then return (← get).value? "HOME".toList
  else return userDirectory? (← Run.ask Act.files) user

/-- Text behind which nothing of the word is left, or more of it. A tilde counts at the start of the
text if `here` holds. The number bounds the characters. -/
def tildes (m : Manner) (isLast : Bool) : Nat → Bool → Octets → Run (List Cell)
  | 0, _, _ => pure []
  | _ + 1, _, [] => pure []
  | fuel + 1, here, c :: r => do
    if c == '~' && here then
      let user := r.takeWhile fun c => c != '/' && !(m.tildeInside && c == ':')
      let rest := r.drop user.length
      let directory? ← if rest.isEmpty && !isLast then pure none else home? user
      match directory? with
      | some directory => return Cell.ofText true directory ++ (← tildes m isLast fuel false rest)
      | none => return .char c false :: (← tildes m isLast fuel false r)
    else return .char c false :: (← tildes m isLast fuel (m.tildeInside && c == ':') r)

def plainCells (m : Manner) (isLast : Bool) (s : Octets) : Run (List Cell) :=
  if s.contains '~' && (m.tildeAtStart || m.tildeInside) && !m.isQuoted then
    tildes m isLast (s.length + 1) m.tildeAtStart s
  else return Cell.ofText m.isQuoted s

/-- What stands between the arguments when all of them are taken. A zero byte stands between those that
become fields of their own. -/
def separator (s : Session) (m : Manner) (name : Octets) : Octets :=
  let ifs := s.value? "IFS".toList
  if m.splits && m.isQuoted && name == ['@'] then ['\x00']
  else if m.splits && !m.isQuoted then (if ifs.isSome then ['\x00'] else [' '])
  else match ifs with
    | none => [' ']
    | some ifs => ifs.take 1

def value? (s : Session) (m : Manner) (name : Octets) : Option Octets :=
  match name with
  | ['$'] => some (Octets.ofNat s.number)
  | ['?'] => some (Octets.ofNat s.status)
  | ['#'] => some (Octets.ofNat s.arguments.length)
  | ['!'] => s.lastJob.map Octets.ofNat
  | ['-'] => some s.settings.letters
  | ['@'] | ['*'] => some ((separator s m name).intercalate s.arguments)
  | _ =>
    match Octets.toNat? name with
    | some 0 => some s.name
    | some n => s.arguments[n - 1]?
    | none => s.value? name

def valueStretch (s : Session) (m : Manner) (name value : Octets) : List Stretch :=
  let splitting : Splitting :=
    if !m.isQuoted then .fields
    else if name == ['@'] && !s.arguments.isEmpty then .zeros
    else .none
  [⟨Cell.ofText m.isQuoted value, splitting⟩]

def numberStretch (m : Manner) (n : Octets) : List Stretch :=
  [⟨Cell.ofText m.isQuoted n, if m.isQuoted then .none else .fields⟩]

def unsetFault {α : Type} (name : Octets) : Run α := Run.fault (name ++ ": parameter not set".toList)

/-- What stands in for a parameter without a value where that is not allowed. -/
def absent (name : Octets) : Run (List Stretch) := do
  if (← get).isOn .nounset then unsetFault name else return []

def arithmetic (expression : Octets) : Run Int := do
  let s ← get
  let scope : Arithmetic.Scope := { value? := s.value?, isConstant := s.table.isConstant }
  match Arithmetic.evaluate scope expression with
  | .ok (n, assigned) => do
    for (name, n) in assigned do Run.setVariable name (Octets.ofInt n)
    return n
  | .error .overflow => do
    discard (Run.ask (Act.signal (← Run.ask Act.numbers).1 Signal.floatingPoint))
    throw .finish
  | .error f => Run.fault (f.message expression)

/-- Output without the line ends behind it, and without zero bytes. -/
def trimmed (t : Octets) : Octets :=
  ((t.filter (· != '\x00')).reverse.dropWhile (· == '\n')).reverse

def moveChannel (source target : Nat) : Act Unit := do
  if source != target then
    discard (Act.copy source target)
    Act.close source

def outputOf (child : Run Nat) (await : Nat → Run Nat) : Run Octets := do
  let (source, target) ← Run.ask Act.pipe
  let number ← Run.fork do
    Run.ask (Act.close source)
    Run.ask (moveChannel target 1)
    child
  Run.ask (Act.close target)
  let t ← Run.ask (Act.readAll source)
  Run.ask (Act.close source)
  let status ← await number
  modify fun s => { s with outputStatus := status }
  return trimmed t

/-- How commands run in a child of the shell whose output is taken, and how it is waited for. -/
structure Commands where
  child : Command → Run Nat
  await : Nat → Run Nat

def textOf (ss : List Stretch) : Octets := Cell.text (ss.flatMap (·.cells))

mutual

def expandParts (cs : Commands) (m : Manner) : List Part → Run (List Stretch)
  | [] => pure []
  | p :: rest => do
    let first ← expandPart cs m rest.isEmpty p
    return first ++ (← expandParts cs { m with tildeAtStart := false } rest)

/-- The stretches that a part becomes; `isLast` tells that it is the last one. -/
def expandPart (cs : Commands) (m : Manner) (isLast : Bool) : Part → Run (List Stretch)
  | .text true s => return [⟨Cell.ofText true s, .none⟩]
  | .text false s => do
    return [⟨← plainCells m isLast s, if m.isInner && !m.isQuoted then .fields else .none⟩]
  | .quoted ps => do
    let ss ← expandParts cs { m with isQuoted := true, tildeAtStart := false, tildeInside := false } ps
    let isAlone := match ps with
      | [.parameter ['@'] .value] => true
      | _ => false
    return if isAlone then ss else ⟨[.mark], .none⟩ :: ss ++ [⟨[.mark], .none⟩]
  | .parameter name form => expandForm cs m name form
  | .output .nothing => return [⟨[], if m.isQuoted then .none else .fields⟩]
  | .output c => do return numberStretch m (← outputOf (cs.child c) cs.await)
  | .arithmetic ps => do
    let expression ← expandParts cs {} ps
    return numberStretch m (Octets.ofInt (← arithmetic (textOf expression)))

def expandForm (cs : Commands) (m : Manner) (name : Octets) : Form → Run (List Stretch)
  | .bad => Run.faultText "Bad substitution"
  | .value => do
    let s ← get
    match value? s m name with
    | some v => return valueStretch s m name v
    | none => absent name
  | .length => do
    match value? (← get) m name with
    | some v => return numberStretch m (Octets.ofNat v.length)
    | none => do
      discard (absent name)
      return numberStretch m ['0']
  | .fallback kind emptyCounts word => do
    let s ← get
    let value := (value? s m name).filter fun v => !(emptyCounts && v.isEmpty)
    let inner : Manner := { m with isInner := true, tildeAtStart := true }
    match kind, value with
    | .replace, none => return []
    | .replace, some _ => expandParts cs inner word
    | _, some v => return valueStretch s m name v
    | .use, none => expandParts cs inner word
    | .assign, none => do
      let v := textOf (← expandParts cs .whole word)
      Run.checkName name
      Run.setVariable name v
      let s ← get
      return valueStretch s m name ((value? s m name).getD [])
    | .fail, none => do
      let v := textOf (← expandParts cs .whole word)
      if word.isEmpty then
        if emptyCounts then Run.fault (name ++ ": parameter not set or null".toList)
        else unsetFault name
      else Run.fault (name ++ [':', ' '] ++ v)
  | .trim atEnd longest word => do
    let s ← get
    match value? s m name with
    | none => absent name
    | some v => do
      let p := Pattern.ofCells ((← expandParts cs .whole word).flatMap (·.cells))
      return valueStretch s m name
        (if atEnd then Pattern.trimEnd longest p v else Pattern.trimStart longest p v)

end

def fieldsOf (cs : Commands) (w : Word) : Run (List Octets) := do
  let ss ← expandParts cs .fields w
  let s ← get
  let fields := Field.split (s.value? "IFS".toList) ss
  if s.isOn .noglob || !fields.any Field.isPattern then return fields.map Cell.text
  else
    let files ← Run.ask Act.files
    let directory ← Run.ask Act.directory
    return fields.flatMap (Field.named files directory)

def wholeOf (cs : Commands) (w : Word) : Run Octets := do
  return textOf (← expandParts cs .whole w)

def valueOf (cs : Commands) (w : Word) : Run Octets := do
  return textOf (← expandParts cs .value w)

def documentOf (cs : Commands) (w : Word) : Run Octets := do
  return textOf (← expandParts cs .document w)

def patternOf (cs : Commands) (w : Word) : Run (List Pattern.Piece) := do
  return Pattern.ofCells ((← expandParts cs .whole w).flatMap (·.cells))

end Expansion

end SmokeSuite.Shell
