import SmokeSuite.CommandLine.Reader
import SmokeSuite.Machine
import SmokeSuite.Report.Human
import SmokeSuite.Report.Record
import SmokeSuite.Roster
import SmokeSuite.Suite.Builtin
import SmokeSuite.Suite.Schema

namespace SmokeSuite

structure Printout where
  text : String
  exitCode : Nat
  deriving DecidableEq, Inhabited

namespace Execution

def loadSuite (m : Machine) : Option String → Except Failure Suite
  | none => Suite.ofYaml Suite.builtinText
  | some path =>
    match m.readText path with
    | .ok content => Suite.ofYaml content
    | .error cause => .error (.unreadableSuite path cause)

/-- The environment of a machine on which dotenv files have defined variables. -/
def capture (m : Machine) (files : Definitions) (asanJobs : List String) : Snapshot :=
  .ofLookup (lookupVariable m.bindings files) (HostRelease.osId m.readText) m.system asanJobs

/-- The search path of the options, or else of the machine. -/
def searchPath (m : Machine) (o : CommandLine.Options) : SearchPath :=
  m.searchPath ((o.path.or (m.lossyValue Machine.searchPathVariable)).getD "")

/-- The bench of a suite on a machine. The layout binary is looked for once, before anything runs. -/
def bench (m : Machine) (o : CommandLine.Options) (s : Suite) (files : Definitions) : Bench :=
  let path := searchPath m o
  let program := resolveProgram (m.locate path) (o.dot.getD s.dot)
  { environment := capture m files s.asanJobs
    locate := fun files => { m with files }.locate path
    program
    invoke := fun files => { m with files }.invoke program o.timeout
    versionOverride := o.expectVersion }

def planText (plan : List (String × String)) : String :=
  String.join (plan.map fun (id, description) => id ++ ": " ++ description ++ "\n")

/-- Does what the options ask for. -/
def run (m : Machine) (o : CommandLine.Options) (startedAt : Instant) (colours : Bool) :
    Except Failure Printout := do
  if o.printSchema then return ⟨Suite.schema.toText, 0⟩
  let s ← loadSuite m o.config
  let (files, failure) := Definitions.merge m.readText [] o.envFiles
  if let some f := failure then throw f
  let b := bench m o s files
  let (roster, failure) := (Roster.ofSuite s b.environment).select o.filters
  if let some f := failure then throw f
  if o.list then return ⟨planText (roster.plan b), 0⟩
  let (report, _) := roster.run b startedAt m.files
  return ⟨if o.json then report.toRecord else report.toHuman colours, report.exitCode⟩

end Execution

/-- What a process leaves on its two outputs, and its exit code. -/
structure Conclusion where
  stdout : String := ""
  stderr : String := ""
  exitCode : Nat
  deriving DecidableEq, Inhabited

namespace Conclusion

/-- The exit code when the suite could not be run. -/
def failureCode : Nat := 2

def breakdownCode : Nat := 101

/-- What is said when the suite could not be run. -/
def failureText (f : Failure) : String :=
  CommandLine.programName ++ " could not run the suite: " ++ f.fullText ++ "\n"

def ended (s : String) : String := if s.toList.getLast? == some '\n' then s else s ++ "\n"

def ofStop (s : CommandLine.Stop) (styles : Bool) : Conclusion :=
  match s with
  | .help | .version => { stdout := s.message.text styles, exitCode := 0 }
  | .badTimeout _ .carryOverflow =>
    { stderr := ended Duration.ReadError.carryOverflow.message, exitCode := breakdownCode }
  | s => { stderr := s.message.text styles, exitCode := failureCode }

def ofResult : Except Failure Printout → Conclusion
  | .ok p => { stdout := ended p.text, exitCode := p.exitCode }
  | .error f => { stderr := failureText f, exitCode := failureCode }

/-- The variable that asks for colours where there is no terminal, and the one that asks for none. -/
def forceVariable : String := "CLICOLOR_FORCE"

def refuseVariable : String := "NO_COLOR"

/-- Whether a report is coloured that does not go to a terminal: only if it is forced. A value of zero
forces nothing. -/
def colours (vs : ProcessVariables) : Bool := (vs.text? forceVariable).any (· != "0")

/-- Whether messages about the arguments keep their styles without a terminal: any value forces it, but
not against the wish for no colours. -/
def messageStyles (vs : ProcessVariables) : Bool :=
  vs.isFilled forceVariable && !vs.isFilled refuseVariable

/-- The whole process: arguments in, outputs and exit code out. -/
def ofArguments (m : Machine) (arguments : List String) (startedAt : Instant) : Conclusion :=
  match CommandLine.read arguments with
  | .error s => ofStop s (messageStyles m.bindings)
  | .ok o => ofResult (Execution.run m o startedAt (colours m.bindings))

end Conclusion

end SmokeSuite
