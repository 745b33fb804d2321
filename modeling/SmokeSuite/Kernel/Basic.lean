import SmokeSuite.Kernel.Process

namespace SmokeSuite

structure Kernel where
  files : FileTree
  processes : List Process := []
  opened : Array Opened := #[]
  pipes : Array Pipe := #[]
  outputs : Array (List Octets) := #[]
  clock : Nat := 0
  lastNumber : Nat
  first : Nat
  conclusion : Option Ending := none
  /-- Children that ended and that their parents did not ask about yet: parent, child, ending. -/
  ended : List (Nat × Nat × Ending) := []
  deriving Inhabited

namespace Kernel

def opened? (k : Kernel) (p : Process) (channel : Nat) : Option (Nat × Opened) := do
  let c ← p.channel? channel
  let o ← k.opened[c.opened]?
  return (c.opened, o)

def isHeldBy (k : Kernel) (p : Process) (f : Target → Bool) : Bool :=
  p.channels.any fun c => (k.opened[c.opened]?).any fun o => f o.target

def isHeld (k : Kernel) (f : Target → Bool) : Bool := k.processes.any fun p => k.isHeldBy p f

def output (k : Kernel) (number : Nat) : Octets := ((k.outputs[number]?).getD []).reverse.flatten

def isOver (k : Kernel) : Bool :=
  k.conclusion.isSome && !k.isHeld fun t => match t with
    | .output _ => true
    | _ => false

/-- Takes a process that ended out of the line. Its parent can ask about it. -/
def bury (k : Kernel) (p : Process) (e : Ending) : Kernel :=
  let others := (k.processes.filter (·.number != p.number)).map fun q =>
    if q.number = p.parent then (q.receive Signal.child).getD q else q
  let hasParent := others.any (·.number == p.parent)
  { k with
    processes := others
    ended := (if hasParent then k.ended ++ [(p.parent, p.number, e)] else k.ended).filter
      fun (parent, _) => parent != p.number
    conclusion := if p.number = k.first then some e else k.conclusion }

/-- Sends a signal to the processes that a target names. Signal zero only asks whether there is one. -/
def send (k : Kernel) (sender : Process) (target : Int) (signal : Nat) : Kernel × Option SystemError :=
  let meant := k.processes.filter fun q => q.isMeant sender target
  if meant.isEmpty then
    (k, if k.ended.any (fun (_, child, _) => target == child) then none else some .noProcess)
  else if signal = 0 then (k, none)
  else
    let k := meant.foldl (fun (k : Kernel) q =>
      match q.receive signal with
      | none => k.bury q (.signalled signal)
      | some changed => { k with
          processes := k.processes.map fun r => if r.number = q.number then changed else r }) k
    (k, none)

def addOpened (k : Kernel) (o : Opened) : Kernel × Nat :=
  ({ k with opened := k.opened.push o }, k.opened.size)

def setOpened (k : Kernel) (place : Nat) (o : Opened) : Kernel :=
  { k with opened := k.opened.modify place fun _ => o }

/-- Changes the files. What was opened and has no place any more is lost to all others. -/
def setFiles (k : Kernel) (tree : FileTree) : Kernel :=
  { k with
    files := tree
    opened := k.opened.map fun o =>
      match o.target with
      | .file place =>
        match k.files.entry? place, tree.entry? place with
        | some (.file content _), none => { o with target := .lost content }
        | _, _ => o
      | _ => o }

def channelDirectories : List String := ["/dev/fd/", "/proc/self/fd/"]

def channelOf? (path : Octets) : Option Nat :=
  match String.ofList path with
  | "/dev/stdin" => some 0
  | "/dev/stdout" => some 1
  | "/dev/stderr" => some 2
  | _ => channelDirectories.findSome? fun d =>
    if d.toList.isPrefixOf path then Octets.toNat? (path.drop d.length) else none

def openPath (files : FileTree) (directory : Location) (path : Octets) (how : Opening) :
    Except SystemError (Opened × FileTree) :=
  let name := path.toPath
  match files.follow directory name with
  | .ok (_, .directory) =>
    match how with
    | .read => .ok ({ target := .directory }, files)
    | .create => .error .fileExists
    | _ => .error .isDirectory
  | .ok (_, .device d) => .ok ({ target := .device d }, files)
  | .ok (place, .file _ executable) =>
    match how with
    | .create => .error .fileExists
    | .write appends =>
      .ok ({ target := .file place, appends },
        if appends then files else files.insert place (.file [] executable))
    | _ => .ok ({ target := .file place }, files)
  | .error .notFound =>
    if how == .read then .error .notFound
    else if path.getLast? == some '/' then .error .isDirectory
    else do
      let place ← files.placeFor directory name
      return ({ target := .file place, appends := how == .write true },
        files.insert place (.file [] false))
  | .error e => .error e

def slice (content : List UInt8) (position limit : Nat) : Octets :=
  Octets.ofBytes ((content.drop position).take limit)

def overwrite (content : List UInt8) (position : Nat) (bytes : List UInt8) : List UInt8 :=
  content.take position ++ List.replicate (position - content.length) 0 ++ bytes ++
    content.drop (position + bytes.length)

/-- What a reader gets now; there is no answer yet if it has to wait. -/
def read (k : Kernel) (place : Nat) (o : Opened) (limit : Nat) :
    Option (Except SystemError Octets × Kernel) :=
  let fromFile (content : List UInt8) : Option (Except SystemError Octets × Kernel) :=
    let t := slice content o.position limit
    some (.ok t, k.setOpened place { o with position := o.position + t.length })
  match o.target with
  | .directory => some (.error .isDirectory, k)
  | .device .nothing | .output _ => some (.ok [], k)
  | .device _ => some (.ok (List.replicate limit '\x00'), k)
  | .lost content => fromFile content
  | .file location =>
    match k.files.entry? location with
    | some (.file content _) => fromFile content
    | _ => some (.ok [], k)
  | .pipe _ true => some (.error .badChannel, k)
  | .pipe number false =>
    let pipe := (k.pipes[number]?).getD {}
    if limit = 0 then some (.ok [], k)
    else if pipe.size > 0 then
      let (t, pipe) := pipe.take limit
      some (.ok t, { k with pipes := k.pipes.modify number fun _ => pipe })
    else if k.isHeld (· == .pipe number true) then none
    else some (.ok [], k)

/-- What comes of writing: the text that is left to write, or why none of it can be written. -/
def write (k : Kernel) (place : Nat) (o : Opened) (t : Octets) :
    Except SystemError Octets × Kernel :=
  let put (content : List UInt8) : List UInt8 × Opened :=
    let position := if o.appends then content.length else o.position
    (overwrite content position t.toBytes, { o with position := position + t.length })
  match o.target with
  | .directory => (.error .badChannel, k)
  | .device .full => (.error .noSpace, k)
  | .device _ => (.ok [], k)
  | .output number => (.ok [], { k with outputs := k.outputs.modify number (t :: ·) })
  | .lost content =>
    let (content, o) := put content
    (.ok [], k.setOpened place { o with target := .lost content })
  | .file location =>
    match k.files.entry? location with
    | some (.file content executable) =>
      let (content, o) := put content
      (.ok [], { k.setOpened place o with
        files := k.files.insert location (.file content executable) })
    | _ => (.ok [], k)
  | .pipe _ false => (.error .badChannel, k)
  | .pipe number true =>
    if !k.isHeld (· == .pipe number false) then (.error .brokenPipe, k)
    else
      let room := ((k.pipes[number]?).getD {}).room t.length
      (.ok (t.drop room),
        if room = 0 then k else { k with pipes := k.pipes.modify number (·.push (t.take room)) })

def kindOf (o : Opened) : ChannelKind :=
  match o.target with
  | .pipe .. | .output _ => .pipe
  | .file place => .file place
  | .lost _ => .file []
  | .directory => .directory
  | .device d => .device d

/-- What comes of a turn: the machine goes on, or the process has to wait. -/
inductive Turn where
  | done (k : Kernel)
  | waits (p : Process)

def resume (k : Kernel) (p : Process) (others : List Process) (program : Program) : Turn :=
  .done { k with processes := { p with program } :: others }

def awaited (k : Kernel) (p : Process) (others : List Process) (child : Option Nat)
    (blocks interruptible : Bool) : Option (Awaited × Kernel) :=
  let isMeant (number : Nat) : Bool := child.isNone || child == some number
  match k.ended.find? fun (parent, number, _) => parent == p.number && isMeant number with
  | some (parent, number, e) =>
    some (.ended number e, { k with ended := k.ended.filter (· != (parent, number, e)) })
  | none =>
    if !others.any fun q => q.parent == p.number && isMeant q.number then some (.noChild, k)
    else if !blocks then some (.running, k)
    else if interruptible && !p.arrived.isEmpty then some (.interrupted, k)
    else none

def answer (k : Kernel) (p : Process) (others : List Process) (r : Request)
    (next : r.Answer → Program) : Turn :=
  match r, next with
  | .pause, next => k.resume { p with arrived := [] } others (next p.arrived)
  | .read channel limit, next =>
    match k.opened? p channel with
    | none => k.resume p others (next (.error .badChannel))
    | some (place, o) =>
      match k.read place o limit with
      | some (result, k) => k.resume p others (next result)
      | none =>
        if p.arrived.isEmpty then .waits p else k.resume p others (next (.error .interrupted))
  | .write channel text, next =>
    match k.opened? p channel with
    | none => k.resume p others (next (some .badChannel))
    | some (place, o) =>
      match k.write place o text with
      | (.ok [], k) => k.resume p others (next none)
      | (.ok rest, k) =>
        let p := { p with program := Program.ask (.write channel rest) next }
        if rest.length = text.length then .waits p else .done { k with processes := p :: others }
      | (.error .brokenPipe, k) =>
        match p.receive Signal.pipe with
        | none => .done (k.bury p (.signalled Signal.pipe))
        | some p => k.resume p others (next (some .brokenPipe))
      | (.error e, k) => k.resume p others (next (some e))
  | .openFile path how, next =>
    match channelOf? path with
    | some number =>
      match p.channel? number with
      | some c =>
        let free := p.freeNumber 0
        k.resume (p.setChannel { number := free, opened := c.opened }) others (next (.ok free))
      | none => k.resume p others (next (.error .notFound))
    | none =>
      match openPath k.files p.directory path how with
      | .error e => k.resume p others (next (.error e))
      | .ok (o, files) =>
        let (k, opened) := { k with files }.addOpened o
        let free := p.freeNumber 0
        k.resume (p.setChannel { number := free, opened }) others (next (.ok free))
  | .close channel, next => k.resume (p.dropChannel channel) others (next ())
  | .copy source target, next =>
    match p.channel? source with
    | some c =>
      let p := if source = target then p else p.setChannel { number := target, opened := c.opened }
      k.resume p others (next none)
    | none => k.resume p others (next (some .badChannel))
  | .keep channel, next =>
    match p.channel? channel with
    | some c =>
      let number := p.freeNumber Process.firstPrivate
      k.resume (p.setChannel { number, opened := c.opened, isPrivate := true }) others
        (next (some number))
    | none => k.resume p others (next none)
  | .pipe, next =>
    let number := k.pipes.size
    let (k, source) := { k with pipes := k.pipes.push {} }.addOpened { target := .pipe number false }
    let (k, target) := k.addOpened { target := .pipe number true }
    let first := p.freeNumber 0
    let p := p.setChannel { number := first, opened := source }
    let second := p.freeNumber 0
    k.resume (p.setChannel { number := second, opened := target }) others (next (first, second))
  | .giveBack channel amount, next =>
    match k.opened? p channel with
    | some (place, o) =>
      (k.setOpened place { o with position := o.position - amount }).resume p others (next ())
    | none => k.resume p others (next ())
  | .inspect channel, next =>
    k.resume p others (next ((k.opened? p channel).map fun (_, o) => kindOf o))
  | .wait child blocks interruptible, next =>
    match k.awaited p others child blocks interruptible with
    | some (result, k) => k.resume p others (next result)
    | none => .waits p
  | .sleep none, _ => .waits p
  | .sleep (some nanos), next =>
    match p.wakesAt with
    | none => .waits { p with wakesAt := some (k.clock + nanos) }
    | some time =>
      if time ≤ k.clock then k.resume { p with wakesAt := none } others (next ()) else .waits p
  | .signal target number, next =>
    let (k, result) := { k with processes := { p with program := next none } :: others }.send p target
      number
    match result with
    | none => .done k
    | some e => k.resume p others (next (some e))
  | .respond signal how, next =>
    k.resume { p with responses := (signal, how) :: p.responses.filter (·.1 != signal) } others
      (next ())
  | .responses, next => k.resume p others (next p.responses)
  | .lead, next => k.resume { p with group := p.number } others (next ())
  | .numbers, next => k.resume p others (next (p.number, p.parent))
  | .files, next => k.resume p others (next k.files)
  | .setFiles tree, next => (k.setFiles tree).resume p others (next ())
  | .directory, next => k.resume p others (next p.directory)
  | .setDirectory place, next => k.resume { p with directory := place } others (next ())
  | .become, next => k.resume p.become others (next ())

def turn (k : Kernel) (p : Process) (others : List Process) : Turn :=
  if p.isStopped then .waits p
  else match p.program with
    | .exit status => .done (k.bury p (.exited (status % 256)))
    | .fork child next =>
      let number := k.lastNumber + 1
      let started : Process :=
        { number, parent := p.number, group := p.group, program := child, channels := p.channels,
          directory := p.directory, responses := p.responses }
      { k with lastNumber := number }.resume p (others ++ [started]) (next number)
    | .ask r next => k.answer p others r next

def nextWake (k : Kernel) : Option Nat :=
  (k.processes.filterMap fun p => if p.isStopped then none else p.wakesAt).min?

def stepNanos : Nat := 200

/-- How many steps a process may take before others have their turns. -/
def share : Nat := 2000

/-- Runs until all is done, or until nothing more can happen, or until the limit; tells whether all was
done. The first number bounds the steps, `idle` counts the processes that wait one after the other, and
`taken` the steps of the one in front. -/
def run (limit : Nat) : Nat → Nat → Nat → Kernel → Bool × Kernel
  | 0, _, _, k => (false, k)
  | fuel + 1, idle, taken, k =>
    if k.isOver then (k.clock < limit, k)
    else if k.clock ≥ limit then (false, k)
    else if idle ≥ k.processes.length then
      match k.nextWake with
      | none => (false, { k with clock := limit })
      | some time => run limit fuel 0 0 { k with clock := max k.clock time }
    else match k.processes with
      | [] => (false, k)
      | p :: others =>
        if taken ≥ share && !others.isEmpty then
          run limit fuel idle 0 { k with processes := others ++ [p] }
        else match k.turn p others with
          | .done k => run limit fuel 0 (taken + 1) { k with clock := k.clock + stepNanos }
          | .waits p => run limit fuel (idle + 1) 0 { k with processes := others ++ [p] }

end Kernel

end SmokeSuite
