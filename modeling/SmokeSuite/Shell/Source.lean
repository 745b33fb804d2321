import SmokeSuite.Shell.Token

namespace SmokeSuite.Shell

structure Pending where
  number : Nat
  mark : Octets
  stripsTabs : Bool
  isPlain : Bool
  deriving DecidableEq, Inhabited

structure Source where
  ahead : Octets
  behind : List (Octets × Octets) := []
  line : Nat := 1
  aliases : List (Octets × Octets) := []
  kept : Option Token := none
  /-- Whether the text of an alias ended in a blank, so that the next word may be an alias too. -/
  followsAlias : Bool := false
  pending : List Pending := []
  documents : List (Nat × Word) := []
  lastDocument : Nat := 0
  isDocumentOver : Bool := false
  deriving Inhabited

/-- Reading from a source. A fault keeps the source as far as it was read. -/
abbrev Reading := StateT Source (Except (Fault × Source))

namespace Reading

def fault {α : Type} (f : Fault) : Reading α := fun s => .error (f, s)

def pieces : Nat := 1000000000

end Reading

namespace Source

def next? (s : Source) : Option (Char × Source) :=
  if s.isDocumentOver then none
  else match s.ahead with
    | c :: r => some (c, { s with ahead := r })
    | [] => go s.behind
where
  /-- Gives up alias texts until one has something left. -/
  go : List (Octets × Octets) → Option (Char × Source)
    | [] => none
    | (name, rest) :: behind =>
      let endsInBlank := match s.aliases.lookup name with
        | some text => text.getLast? == some ' ' || text.getLast? == some '\t'
        | none => false
      let followsAlias := s.followsAlias || endsInBlank
      match rest with
      | c :: r => some (c, { s with ahead := r, behind, followsAlias })
      | [] => go behind

/-- The next character, where a backslash before a line end joins two lines. The number bounds how many
lines are joined. -/
def nextJoined? : Nat → Source → Option (Char × Source)
  | 0, s => s.next?
  | fuel + 1, s =>
    match s.next? with
    | some ('\\', s') =>
      match s'.next? with
      | some ('\n', s'') => nextJoined? fuel { s'' with line := s''.line + 1 }
      | _ => some ('\\', s')
    | found => found

def pushAlias (s : Source) (name text : Octets) : Source :=
  { s with ahead := text, behind := (name, s.ahead) :: s.behind }

def isReadingAlias (s : Source) (name : Octets) : Bool := s.behind.any (·.1 == name)

end Source

namespace Reading

def next : Reading (Option Char) := fun s =>
  match s.next? with
  | some (c, s) => .ok (some c, s)
  | none => .ok (none, s)

def nextJoined : Reading (Option Char) := fun s =>
  match s.nextJoined? pieces with
  | some (c, s) => .ok (some c, s)
  | none => .ok (none, s)

def skip? (c : Char) : Reading Bool := fun s =>
  match s.nextJoined? pieces with
  | some (d, s') => if c == d then .ok (true, s') else .ok (false, s)
  | none => .ok (false, s)

def peekJoined : Reading (Option Char) := fun s => .ok ((s.nextJoined? pieces).map (·.1), s)

def countLine : Reading Unit := modify fun s => { s with line := s.line + 1 }

def takeWhile (f : Char → Bool) : Nat → Octets → Reading Octets
  | 0, taken => pure taken.reverse
  | fuel + 1, taken => fun s =>
    match s.nextJoined? pieces with
    | some (c, s') => if f c then takeWhile f fuel (c :: taken) s' else .ok (taken.reverse, s)
    | none => .ok (taken.reverse, s)

end Reading

end SmokeSuite.Shell
