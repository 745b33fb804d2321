import SmokeSuite.CommandLine.Option
import SmokeSuite.Duration.Reader

namespace SmokeSuite.CommandLine

structure Options where
  config : Option String := none
  envFiles : List String := []
  filters : List String := []
  dot : Option String := none
  path : Option String := none
  expectVersion : Option String := none
  timeout : Duration := .ofSeconds 30
  json : Bool := false
  list : Bool := false
  printSchema : Bool := false
  verbose : Nat := 0
  quiet : Bool := false
  deriving DecidableEq, Inhabited

/-- Why the arguments do not say what to run. -/
inductive Stop where
  | help
  | version
  | unknown (argument : String)
  | valueMissing (option : Opt)
  | valueUnneeded (option : Opt) (value : String)
  | repeated (option : Opt)
  | conflict (first second : Opt)
  | badTimeout (value : String) (cause : Duration.ReadError)
  deriving DecidableEq, Inhabited

def Stop.explanation : Stop → Message
  | .help | .version => []
  | .unknown argument => [⟨"unexpected argument '", {}⟩, .wrong argument, ⟨"' found", {}⟩]
  | .valueMissing o =>
    [⟨"a value is required for '", {}⟩, .wrong o.usage, ⟨"' but none was supplied", {}⟩]
  | .valueUnneeded o value =>
    [⟨"unexpected value '", {}⟩, .wrong value, ⟨"' for '", {}⟩, .literal o.usage,
      ⟨"' found; no more were expected", {}⟩]
  | .repeated o =>
    [⟨"the argument '", {}⟩, .wrong o.usage, ⟨"' cannot be used multiple times", {}⟩]
  | .conflict first second =>
    [⟨"the argument '", {}⟩, .wrong first.usage, ⟨"' cannot be used with '", {}⟩,
      .wrong second.usage, ⟨"'", {}⟩]
  | .badTimeout value cause =>
    [⟨"invalid value '", {}⟩, .wrong value, ⟨"' for '", {}⟩, .literal (Opt.usage .timeout),
      ⟨"': invalid duration '" ++ value ++ "': " ++ cause.message, {}⟩]

def Stop.message : Stop → Message
  | .help => CommandLine.help
  | .version => [⟨versionText ++ "\n", {}⟩]
  | s => [.fault "error:", ⟨" ", {}⟩] ++ s.explanation ++ helpHint

/-- Reading in progress: the options so far, in which order they were given, and the option that has
not taken effect, with its value if that has been read. -/
structure Reading where
  options : Options := {}
  given : List Opt := []
  waiting : Option (Opt × Option String) := none

def maxCount : Nat := 255

def Options.setValue (s : Options) (o : Opt) (value : String) : Except Stop Options :=
  match o with
  | .config => .ok { s with config := some value }
  | .envFile => .ok { s with envFiles := s.envFiles ++ [value] }
  | .filter => .ok { s with filters := s.filters ++ [value] }
  | .dot => .ok { s with dot := some value }
  | .path => .ok { s with path := some value }
  | .expectVersion => .ok { s with expectVersion := some value }
  | .timeout =>
    match Duration.read value with
    | .ok d => .ok { s with timeout := d }
    | .error cause => .error (.badTimeout value cause)
  | _ => .ok s

def Options.setFlag (s : Options) (o : Opt) : Except Stop Options :=
  match o with
  | .json => .ok { s with json := true }
  | .list => .ok { s with list := true }
  | .printSchema => .ok { s with printSchema := true }
  | .verbose => .ok { s with verbose := min maxCount (s.verbose + 1) }
  | .quiet => .ok { s with quiet := true }
  | .help => .error .help
  | .version => .error .version
  | _ => .ok s

namespace Reading

/-- Lets an option take effect. An option that counts moves to the end of those given. -/
def take (r : Reading) (o : Opt) (value : Option String) : Except Stop Reading := do
  if o.takesValue && value.isNone then throw (.valueMissing o)
  if !o.isRepeatable && r.given.contains o then throw (.repeated o)
  if o.namesFile && value == some "" then throw (.valueMissing o)
  let options ← match value with
    | some v => r.options.setValue o v
    | none => r.options.setFlag o
  pure { r with options, given := r.given.filter (· != o) ++ [o] }

def settle (r : Reading) : Except Stop Reading :=
  match r.waiting with
  | some (o, value) => { r with waiting := none }.take o value
  | none => .ok r

/-- Takes an option that was met, with the value in the same argument if there is one. -/
def meet (r : Reading) (o : Opt) (value : Option String) : Except Stop Reading := do
  let r ← r.settle
  match o.takesValue, value with
  | true, none => pure { r with waiting := some (o, none) }
  | _, _ => r.take o value

def cutAtEquals (s : List Char) : List Char × Option (List Char) :=
  (s.takeWhile (· != '='), match s.dropWhile (· != '=') with
    | _ :: value => some value
    | [] => none)

def readLong (r : Reading) (s : List Char) : Except Stop Reading :=
  let (name, value) := cutAtEquals s
  match Opt.ofLong? (String.ofList name) with
  | none => .error (.unknown ("--" ++ String.ofList name))
  | some o =>
    match o.takesValue, value with
    | false, some v => .error (.valueUnneeded o (String.ofList v))
    | _, _ => r.meet o (value.map String.ofList)

/-- An argument behind one hyphen: options of one letter. One that takes a value has the rest of the
argument for it, without an equals sign in front. -/
def readShort (r : Reading) : List Char → Except Stop Reading
  | [] => .ok r
  | c :: rest =>
    match Opt.ofShort? c with
    | none => .error (.unknown ("-" ++ c.toString))
    | some o =>
      if o.takesValue then
        let value := match rest with
          | [] => none
          | '=' :: v => some v
          | v => some v
        r.meet o (value.map String.ofList)
      else do readShort (← r.meet o none) rest

def conflicting : Opt × Opt := (.quiet, .verbose)

/-- Refuses options that exclude each other; the one given first is named first. -/
def checkConflicts (r : Reading) : Except Stop Unit :=
  match r.given.filter fun o => o == conflicting.1 || o == conflicting.2 with
  | first :: second :: _ => .error (.conflict first second)
  | _ => .ok ()

/-- Reads argument after argument. Two hyphens alone end the options, and nothing may follow. -/
def readAll (r : Reading) : List String → Except Stop Reading
  | [] => r.settle
  | a :: rest =>
    match a.toList with
    | ['-', '-'] =>
      match rest with
      | [] => r.settle
      | b :: _ => .error (.unknown b)
    | '-' :: '-' :: s => do readAll (← r.readLong s) rest
    | '-' :: c :: s => do readAll (← r.readShort (c :: s)) rest
    | _ =>
      match r.waiting with
      | some (o, none) => readAll { r with waiting := some (o, some a) } rest
      | _ => .error (.unknown a)

end Reading

def read (arguments : List String) : Except Stop Options := do
  let r ← Reading.readAll {} arguments
  r.checkConflicts
  pure r.options

end SmokeSuite.CommandLine
