import SmokeSuite.Shell.Expansion

namespace SmokeSuite.Shell

inductive Redirection where
  | file (channel : Nat) (access : Access) (path : Octets)
  | duplicate (channel : Nat) (source : Option Nat)
  | document (channel : Nat) (content : Word)

namespace Redirection

def source? : Octets → Option (Option Nat)
  | ['-'] => some none
  | [c] => if c.isDigit then some (some (c.toNat - '0'.toNat)) else none
  | _ => none

def prepare (cs : Expansion.Commands) : Redirect → Run Redirection
  | .file channel access path => do return .file channel access (← Expansion.wholeOf cs path)
  | .duplicate channel word => do
    let fields ← match bareText? word with
      | some t => pure [t]
      | none => Expansion.fieldsOf cs word
    match source? (fields.head?.getD []) with
    | some source => return .duplicate channel source
    | none => do Run.syntaxFault .badChannel (← get).readerLine
  | .document channel number => do
    return .document channel (((← get).documents.lookup number).getD [])

def openText (e : SystemError) : Octets :=
  (if e == .notFound || e == .notDirectory then "No such file" else e.reason).toList

def createText (e : SystemError) : Octets :=
  (if e == .notFound || e == .notDirectory then "Directory nonexistent" else e.reason).toList

def openFile (path : Octets) (how : Opening) (creates : Bool) : Run Nat := do
  match ← Run.ask (Act.openFile path how) with
  | .ok n => return n
  | .error e =>
    if creates then Run.fault ("cannot create ".toList ++ path ++ [':', ' '] ++ createText e)
    else Run.fault ("cannot open ".toList ++ path ++ [':', ' '] ++ openText e)

/-- Opens a file for writing that must not be there, unless it is no plain file. -/
def openNew (path : Octets) : Run Nat := do
  let files ← Run.ask Act.files
  let directory ← Run.ask Act.directory
  match files.at? directory path.toPath with
  | none => openFile path .create true
  | some (.file ..) => Run.fault ("cannot create ".toList ++ path ++ [':', ' '] ++ createText .fileExists)
  | some _ => openFile path (.write false) false

def pieceSize : Nat := 4096

/-- Opens a channel from which a text can be read. A long text is written by a child. -/
def documentChannel (t : Octets) : Run Nat := do
  let (source, target) ← Run.ask Act.pipe
  if t.length ≤ pieceSize then discard (Run.write target t)
  else discard (Run.fork do
    Run.ask (Act.close source)
    discard (Run.write target t)
    return 0)
  Run.ask (Act.close target)
  return source

/-- Opens what a redirection leads to. Nothing comes of one that changes nothing. -/
def opened (cs : Expansion.Commands) : Redirection → Run (Option (Option Nat))
  | .file _ .read path => return some (some (← openFile path .read false))
  | .file _ .write path => do
    if (← get).isOn .noclobber then return some (some (← openNew path))
    else return some (some (← openFile path (.write false) true))
  | .file _ .overwrite path => return some (some (← openFile path (.write false) true))
  | .file _ .append path => return some (some (← openFile path (.write true) true))
  | .file _ .update path => return some (some (← openFile path .update true))
  | .duplicate channel source => return if source == some channel then none else some source
  | .document _ content => do
    return some (some (← documentChannel (← Expansion.documentOf cs content)))

def channel : Redirection → Nat
  | .file channel .. | .duplicate channel _ | .document channel _ => channel

def keepChannel (channel : Nat) (isNew : Bool) : Run Unit := do
  match (← get).channels with
  | frame :: frames =>
    if (frame.lookup channel).isNone then
      let kept ← if isNew then pure none else Run.ask (Act.keep channel)
      if kept.isSome then Run.ask (Act.close channel)
      modify fun s => { s with channels := ((channel, kept) :: frame) :: frames }
  | [] => pure ()

/-- Carries out a redirection. `keeps` tells whether the channel is to be put back later. -/
def apply (cs : Expansion.Commands) (keeps : Bool) (r : Redirection) : Run Unit := do
  let channel := r.channel
  match ← opened cs r with
  | none => pure ()
  | some found => do
    if keeps then keepChannel channel (found == some channel)
    match r, found with
    | .duplicate .., some n =>
      match ← Run.ask (Act.copy n channel) with
      | some e => Run.fault (Octets.ofNat n ++ [':', ' '] ++ e.reason.toList)
      | none => pure ()
    | .duplicate .., none => Run.ask (Act.close channel)
    | _, some n => Run.ask (Expansion.moveChannel n channel)
    | _, none => pure ()

def applyAll (cs : Expansion.Commands) (rs : List Redirection) : Run Unit := rs.forM (apply cs false)

def pushChannels : Run Unit := modify fun s => { s with channels := [] :: s.channels }

/-- Carries out redirections that end later; the status tells whether it worked. -/
def applyKept (cs : Expansion.Commands) (rs : List Redirection) : Run Nat :=
  Run.orElse (do rs.forM (apply cs true); return 0) (return 2)

/-- Puts the channels back, or gives up what was kept if the redirections are to last. -/
def popChannels (lasts : Bool) : Run Unit := do
  match (← get).channels with
  | frame :: frames => do
    modify fun s => { s with channels := frames }
    for (channel, kept) in frame do
      match kept with
      | some n => do
        if !lasts then discard (Run.ask (Act.copy n channel))
        Run.ask (Act.close n)
      | none => if !lasts then Run.ask (Act.close channel)
  | [] => pure ()

def keptChannel (channel : Nat) : Run Nat := do
  return ((((← get).channels.head?.getD []).lookup channel).bind id).getD channel

end Redirection

end SmokeSuite.Shell
