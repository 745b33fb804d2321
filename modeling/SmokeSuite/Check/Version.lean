import SmokeSuite.Check.Basic
import SmokeSuite.Text.Quoted

namespace SmokeSuite.Check

/-- The version's place among the words of the report, counted from zero. -/
def versionWord : Nat := 4

def reportedVersion (report : List Char) : Option (List Char) := (Text.words report)[versionWord]?

def describeVersion (expected : Option String) : String :=
  match expected with
  | some version => "-V must report " ++ version
  | none => "-V must report $GV_VERSION (unset)"

/-- The exit code for a message, where there is none with a signal. -/
def codeText : ExitStatus → String
  | .exited code => "Some(" ++ toString code ++ ")"
  | .signalled => "None"

def versionVerdict (program expected : String)
    (result : Except InvocationError CommandOutput) : Verdict :=
  match result with
  | .error e => .failed e.message
  | .ok o =>
    let trimmed := Text.trim o.merged
    if !o.status.isSuccess then
      .failed (program ++ " -V exited with " ++ codeText o.status ++ ": " ++ String.ofList trimmed)
    else match reportedVersion o.merged with
      | none => .failed ("malformed version string: " ++ String.ofList (Text.quoted trimmed))
      | some version =>
        if version = expected.toList then .passed
        else .failed ("expected version " ++ expected ++ ", got " ++ String.ofList version)

def runVersion (b : Bench) (files : FileTree) : Trial :=
  match b.expectedVersion with
  | none => { verdict := .failed "GV_VERSION is not set and no expected version was given", files }
  | some expected =>
    let (i, files) := b.invoke files [Invocation.versionArgument] none
    { verdict := versionVerdict b.program expected i.result, millis := i.millis, files }

def version : Check :=
  { id := "version"
    priority := 10
    subject := .version
    describe := fun b => describeVersion b.expectedVersion
    run := runVersion }

end SmokeSuite.Check
