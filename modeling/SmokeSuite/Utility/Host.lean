import SmokeSuite.Kernel.Image
import SmokeSuite.Printing.Real
import SmokeSuite.Utility.Choices

namespace SmokeSuite.Host

def standardPath : Octets := "/bin:/usr/bin".toList

/-- Goes on as another program in the same process; comes back only if that does not work. -/
def become (c : Call) (words : List Octets) (environment : List (Octets × Octets)) :
    Act SystemError := do
  let files ← Act.files
  let directory ← Act.directory
  let name := words.headD []
  let path := (environment.lookup "PATH".toList).getD standardPath
  let places := if name.isEmpty then [] else Image.places path name
  match Image.search (Image.resolveText files directory · words) places .notFound with
  | .error e => return e
  | .ok (name, words) => do
    Act.become
    fun _ => c.launch name words environment

def statusOf (e : SystemError) : Nat := if e == .notFound then 127 else 126

def becomeOr {α : Type} (c : Call) (words : List Octets) (environment : List (Octets × Octets))
    (complaint : String) : Act α := do
  let e ← become c words environment
  c.tell (complaint.toList ++ Quotation.always (words.headD []) ++ ": ".toList ++ e.reason.toList)
  Act.exit (statusOf e)

def printenv : Utility := fun c => do
  let o ← { c with failure := 2 }.choices [.flag '0' "null"] false
  let ending : Octets := if o.has "null" then ['\x00'] else ['\n']
  if o.operands.isEmpty then c.answer (c.environment.flatMap fun (k, v) => k ++ '=' :: v ++ ending)
  else
    let values := o.operands.map fun n => if n.contains '=' then none else c.environment.lookup n
    c.put ((values.filterMap id).flatMap (· ++ ending))
    return if values.all Option.isSome then 0 else 1

/-- Sets a variable in its place, or behind all others if it is new. -/
def setVariable (vs : List (Octets × Octets)) (name value : Octets) : List (Octets × Octets) :=
  if vs.any (·.1 == name) then vs.map fun v => if v.1 == name then (name, value) else v
  else vs ++ [(name, value)]

/-- The words that a text holds: blanks part them, quotes keep them together, and a backslash takes the
meaning from a character or gives it one. -/
def wordsOf (lookup : Octets → Octets) :
    Nat → Option Char → Option Octets → Octets → Except Octets (List Octets)
  | 0, _, _, _ => .ok []
  | _ + 1, none, w, [] => .ok w.toList
  | _ + 1, some q, _, [] => .error (if q == '\'' || q == '"' then
      "no terminating quote in -S string".toList else [])
  | fuel + 1, q, w, ch :: r =>
    let more (t r : Octets) : Except Octets (List Octets) :=
      wordsOf lookup fuel q (some (w.getD [] ++ t)) r
    if ch == '\\' && q != some '\'' then
      match r with
      | [] => .error "invalid backslash at end of string in -S".toList
      | d :: r =>
        match d with
        | 'c' => if q.isNone then .ok w.toList
          else .error "'\\c' must not appear in double-quoted -S string".toList
        | '_' => if q.isSome then more [' '] r
          else do return w.toList ++ (← wordsOf lookup fuel none none r)
        | 'f' => more ['\x0c'] r
        | 'n' => more ['\n'] r
        | 'r' => more ['\r'] r
        | 't' => more ['\t'] r
        | 'v' => more ['\x0b'] r
        | d => if ("\"#$'\\".toList.contains d) then more [d] r
          else .error ("invalid sequence '\\".toList ++ d :: "' in -S".toList)
    else if ch == '\\' then
      match r with
      | d :: rest => if d == '\\' || d == '\'' then more [d] rest else more ['\\'] r
      | [] => more ['\\'] r
    else if ch == '\'' && q != some '"' then
      wordsOf lookup fuel (if q.isSome then none else some ch) (some (w.getD [])) r
    else if ch == '"' && q != some '\'' then
      wordsOf lookup fuel (if q.isSome then none else some ch) (some (w.getD [])) r
    else if ch == '$' && q != some '\'' then
      let name := (r.drop 1).takeWhile (· != '}')
      if r.head? == some '{' && r.contains '}' then more (lookup name) (r.drop (name.length + 2))
      else .error ("only ${VARNAME} expansion is supported, error at: $".toList ++ r)
    else if Integer.isBlank ch && q.isNone then do
      return w.toList ++ (← wordsOf lookup fuel none none r)
    else if ch == '#' && q.isNone && w.isNone then .ok []
    else more [ch] r

def envKnobs : List Knob :=
  [.flag 'i' "ignore-environment", .flag '0' "null", .valued 'u' "unset", .valued 'C' "chdir",
    .valued 'S' "split-string", .flag 'v' "debug"]

/-- The words with a text among them that holds words itself split up. The number bounds how often. -/
def splitWords (c : Call) : Nat → List Octets → Act (List Octets)
  | 0, ws => return ws
  | fuel + 1, ws =>
    let whole : Option (Octets × List Octets) := match ws with
      | ('-' :: 'S' :: cs) :: rest =>
        if cs.isEmpty then rest.head?.map fun t => (t, rest.drop 1) else some (cs, rest)
      | ('-' :: 'v' :: 'S' :: cs) :: rest =>
        if cs.isEmpty then rest.head?.map fun t => (t, rest.drop 1) else some (cs, rest)
      | w :: rest =>
        let start := "--split-string=".toList
        if start.isPrefixOf w then some (w.drop start.length, rest) else none
      | [] => none
    match whole with
    | none => return ws
    | some (t, rest) =>
      match wordsOf (fun n => (c.environment.lookup n).getD []) (t.length + 1) none none t with
      | .error e => c.giveUp e
      | .ok words => splitWords c fuel (words ++ rest)

def env : Utility := fun c => do
  let words ← splitWords c (c.arguments.length + 1) c.arguments
  let o ← { c with arguments := words }.choices envKnobs false
  let (clears, operands) := match o.operands with
    | ['-'] :: ws => (true, ws)
    | ws => (o.has "ignore-environment", ws)
  let unsets := o.found.filterMap fun (k, v) => if k == "unset" then some v else none
  match unsets.find? fun n => n.isEmpty || n.contains '=' with
  | some n => c.giveUp ("cannot unset ".toList ++ Quotation.always n ++ ": Invalid argument".toList)
  | none => pure ()
  let kept := if clears then [] else c.environment.filter fun v => !unsets.contains v.1
  let assignments := operands.takeWhile (·.contains '=')
  let environment := assignments.foldl (fun vs a =>
    let name := a.takeWhile (· != '=')
    setVariable vs name (a.drop (name.length + 1))) kept
  match operands.drop assignments.length with
  | [] =>
    if o.has "chdir" then c.refuse "must specify command with --chdir (-C)".toList
    c.answer (environment.flatMap fun (k, v) =>
      k ++ '=' :: v ++ (if o.has "null" then ['\x00'] else ['\n']))
  | command => do
    if o.has "null" then c.refuse "cannot specify --null (-0) with command".toList
    match o.value? "chdir" with
    | none => pure ()
    | some path =>
      let files ← Act.files
      let failure (e : SystemError) : Act Unit := c.giveUp
        ("cannot change directory to ".toList ++ Quotation.always path ++ ": ".toList ++ e.reason.toList)
      match files.follow (← Act.directory) path.toPath with
      | .ok (l, .directory) => Act.setDirectory l
      | .ok _ => failure .notDirectory
      | .error e => failure e
    let e ← become c command environment
    let name := command.headD []
    c.tell (Quotation.always name ++ ": ".toList ++ e.reason.toList)
    if e == .notFound && name.any Integer.isBlank then
      c.tell "use -[v]S to pass options in shebang lines".toList
    return statusOf e

/-- The nanoseconds of a time: a number, perhaps with a letter for its unit. Nothing of the two counts as a
time without an end. -/
def nanosOf? (s : Octets) : Option (Option Nat) :=
  match Real.read? .extended s with
  | some (.finite negative m e, unit) =>
    let seconds : Option Nat := match unit with
      | [] | ['s'] => some 1
      | ['m'] => some 60
      | ['h'] => some 3600
      | ['d'] => some 86400
      | _ => none
    let (n, d) := BinaryFormat.scale m 1 (-e)
    if negative && m != 0 then none else seconds.map fun f => some ((n * f * Nat.pow 10 9 + d - 1) / d)
  | some (.infinite negative, unit) =>
    if negative || unit.length > 1 || !unit.all ("smhd".toList.contains ·) then none else some none
  | _ => none

def sleep : Utility := fun c => do
  let o ← c.choices [] true
  if o.operands.isEmpty then c.missingOperand
  let times := o.operands.map fun w => (w, nanosOf? w)
  let wrong := times.filterMap fun (w, t) => if t.isNone then some w else none
  let text (w : Octets) : Octets := "invalid time interval ".toList ++ Quotation.word w
  wrong.dropLast.forM fun w => c.tell (text w)
  match wrong.getLast? with
  | some w => c.refuse (text w)
  | none => pure ()
  let total := times.foldl (fun sum (_, t) => match sum, t with
    | some n, some (some m) => some (n + m)
    | _, _ => none) (some 0)
  Act.sleep total
  return 0

def signalOf? (w : Octets) : Option Nat :=
  match Octets.toNat? w with
  | some n => if n ≤ Signal.last then some n else none
  | none =>
    let name := w.map Char.toUpper
    Signal.ofName? (if "SIG".toList.isPrefixOf name then name.drop 3 else name)

def startClock (nanos : Nat) : Act Nat :=
  Act.fork (Act.run do
    for n in [0, 1, 2] do Act.close n
    Act.sleep (some nanos)
    return 0)

/-- What is done when the time of a child is over, and once more when that did not help. -/
structure Alarm where
  signal : Nat
  killAfter : Option Nat
  tell : Nat → Act Unit

def Alarm.send (a : Alarm) (child n : Nat) : Act Unit := do
  a.tell n
  discard (Act.signal child n)
  if n != Signal.kill then Act.respond n .ignored
  discard (Act.signal 0 n)
  if n != Signal.kill then discard (Act.signal 0 Signal.resume)

/-- Waits for a child; that another one ends means that the time is over. Also tells whether it was. The
number bounds how often the time may be over. -/
def awaitChild (a : Alarm) (child : Nat) : Nat → Bool → Act (Ending × Bool)
  | 0, late => return (.exited 0, late)
  | fuel + 1, late => do
    match ← Act.wait none true false with
    | .ended number e =>
      if number = child then return (e, late)
      else
        a.send child (if late then Signal.kill else a.signal)
        match if late then none else a.killAfter with
        | some n => if n != 0 then discard (startClock n)
        | none => pure ()
        awaitChild a child fuel true
    | _ => return (.exited 0, late)

def timeout : Utility := fun c => do
  let o ← c.choices [.valued 'k' "kill-after", .valued 's' "signal", .flag 'v' "verbose",
    ⟨none, some "preserve-status", .nothing⟩, ⟨none, some "foreground", .nothing⟩] false
  let timeOf (w : Octets) : Act (Option Nat) :=
    match nanosOf? w with
    | some t => return t
    | none => c.refuse ("invalid time interval ".toList ++ Quotation.word w)
  let killAfter ← match o.value? "kill-after" with
    | some w => timeOf w
    | none => pure none
  let signal ← match o.value? "signal" with
    | some w =>
      match signalOf? w with
      | some n => pure n
      | none => c.refuse (Quotation.word w ++ ": invalid signal".toList)
    | none => pure Signal.terminate
  match o.operands with
  | time :: name :: words => do
    let limit ← timeOf time
    Act.lead
    let child ← Act.fork
      (Act.run (becomeOr c (name :: words) c.environment "failed to run command "))
    match limit with
    | some n => if n != 0 then discard (startClock n)
    | none => pure ()
    let tell (n : Nat) : Act Unit :=
      if o.has "verbose" then c.tell (("sending signal " ++ Signal.name n ++ " to command ").toList ++
        Quotation.always name) else pure ()
    let (e, late) ← awaitChild { signal, killAfter, tell } child 3 false
    let keeps := !late || o.has "preserve-status" || e == .signalled Signal.kill
    match e with
    | .exited n => return if keeps then n else 124
    | .signalled n => do
      if !late then discard (Act.signal (← Act.numbers).1 n)
      return if keeps then Signal.statusBase + n else 124
  | _ => do
    discard (Act.write 2 ("Try '".toList ++ c.name ++ " --help' for more information.\n".toList))
    return c.failure

def nohup : Utility := fun c => do
  let o ← c.choices [] false
  if o.operands.isEmpty then c.missingOperand
  Act.respond 1 .ignored
  becomeOr c o.operands c.environment "failed to run command "

/-- Runs a program with a lower rank, which has no effect here, or tells the rank. -/
def nice : Utility := fun c => do
  let rank := fun (w : Octets) => w.length > 1 && w.head? == some '-' && (w.drop 1).all Char.isDigit
  let words := match c.arguments with
    | w :: ws => if rank w then "-n".toList :: w.drop 1 :: ws else w :: ws
    | [] => []
  let o ← { c with arguments := words }.choices [.valued 'n' "adjustment"] false
  match o.value? "adjustment" with
  | some w =>
    if (Integer.ofText? 10 w).isNone || w.isEmpty then
      c.giveUp ("invalid adjustment ".toList ++ Quotation.word w)
  | none => pure ()
  if o.operands.isEmpty then
    if o.found.isEmpty then c.answer "0\n".toList else c.refuse "a command must be given with an adjustment".toList
  else becomeOr c o.operands c.environment ""

def pwd : Utility := fun c => do
  let o ← c.choices [.flag 'L' "logical", .flag 'P' "physical"] true
  if !o.operands.isEmpty then c.tell "ignoring non-option arguments".toList
  let directory ← Act.directory
  let physical := Octets.ofString (FileTree.absolutePath directory)
  let files ← Act.files
  let told := (c.lookup? "PWD").getD []
  let isTrue := told.head? == some '/' &&
    !(Text.partsAt '/' told).any (fun n => n == ['.'] || n == ['.', '.']) &&
    (match files.follow directory told.toPath with
      | .ok (l, _) => l == directory
      | .error _ => false)
  let asTold := match o.lastOf ["logical", "physical"] with
    | some (key, _) => key == "logical"
    | none => (c.lookup? "POSIXLY_CORRECT").isSome
  c.answer ((if asTold && isTrue then told else physical) ++ ['\n'])

def userName : Octets := "root".toList

def whoami : Utility := fun c => do
  match (← c.choices [] true).operands with
  | [] => c.answer (userName ++ ['\n'])
  | w :: _ => c.extraOperand w

/-- Tells who the user is and to which groups that one belongs. There is no other user here. -/
def id : Utility := fun c => do
  let o ← c.choices [.flag 'u' "user", .flag 'g' "group", .flag 'G' "groups", .flag 'n' "name",
    .flag 'r' "real", .flag 'z' "zero"] true
  match o.operands.find? (· != userName) with
  | some w => c.giveUp (Quotation.word w ++ ": no such user".toList)
  | none => pure ()
  let kinds := ["user", "group", "groups"].filter o.has
  if kinds.length > 1 then c.giveUp "cannot print \"only\" of more than one choice".toList
  if kinds.isEmpty then
    if o.has "name" || o.has "real" then
      c.giveUp "printing only names or real IDs requires -u, -g, or -G".toList
    c.answer "uid=0(root) gid=0(root) groups=0(root)\n".toList
  else c.answer ((if o.has "name" then userName else ['0']) ++ ['\n'])

def uname : Utility := fun c => do
  let o ← c.choices [.flag 's' "kernel-name", .flag 'm' "machine", .flag 'o' "operating-system",
    .flag 'p' "processor", .flag 'i' "hardware-platform"] true
  match o.operands with
  | w :: _ => c.extraOperand w
  | [] => pure ()
  let parts : List (String × String) := [("kernel-name", "Linux"), ("machine", "x86_64"),
    ("processor", "unknown"), ("hardware-platform", "unknown"), ("operating-system", "GNU/Linux")]
  let wanted := parts.filter fun (k, _) => o.has k || (o.found.isEmpty && k == "kernel-name")
  c.answer (Octets.joined (wanted.map fun (_, t) => t.toList) ++ ['\n'])

def which : Utility := fun c => do
  let isFlag (w : Octets) : Bool := w.head? == some '-' && w.length > 1
  let flags := (c.arguments.takeWhile isFlag).flatten.filter (· != '-')
  match flags.find? fun l => l != 'a' && l != 's' with
  | some l => do
    discard (Act.write 2 ("Illegal option -".toList ++ l :: "\nUsage: ".toList ++ c.name ++
      " [-as] args\n".toList))
    return 2
  | none => pure ()
  let names := c.arguments.dropWhile isFlag
  let files ← Act.files
  let directory ← Act.directory
  let found (name : Octets) : List Octets :=
    let places := Image.places ((c.lookup? "PATH").getD standardPath) name
    places.filter fun p => files.isExecutable directory p.toPath
  let shown := names.map fun n => if flags.contains 'a' then found n else (found n).take 1
  if !flags.contains 's' then c.put (shown.flatten.flatMap (· ++ ['\n']))
  return if names.isEmpty || shown.any List.isEmpty then 1 else 0

def tty : Utility := fun c => do
  let o ← c.choices [.flag 's' "quiet", ⟨none, some "silent", .nothing⟩] true
  match o.operands with
  | w :: _ => c.extraOperand w
  | [] => pure ()
  if !o.has "quiet" && !o.has "silent" then c.put "not a tty\n".toList
  return 1

end SmokeSuite.Host
