import SmokeSuite.Check.Basic

namespace SmokeSuite.Check

def describeFormat (t : FormatTarget) (e : Snapshot) : String :=
  "-T" ++ t.format ++ " must render" ++
    (match ExpectedFailure.reasonIn t.xfail e with
      | some reason => " (expected to fail: " ++ reason ++ ")"
      | none => "")

def statusText : ExitStatus → String
  | .exited code => toString code
  | .signalled => "signal"

/-- The verdict without regard to an expected failure. -/
def renderVerdict (t : FormatTarget) (program : String)
    (result : Except InvocationError CommandOutput) : Verdict :=
  match result with
  | .ok o =>
    if o.status.isSuccess then .passed
    else .failed (program ++ " -T" ++ t.format ++ " exited with " ++ statusText o.status ++ ": " ++
      String.ofList o.errorText)
  | .error e => .failed e.message

/-- Whether an unexpected pass is a failure; it is unless the target says otherwise. -/
def isStrict (t : FormatTarget) : Bool := (t.xfail.map (·.strict)).getD true

def runFormat (t : FormatTarget) (b : Bench) (files : FileTree) : Trial :=
  let (i, files) := b.invoke files [Invocation.formatArgument t.format]
    (some (Text.Utf8.encode t.source.toList))
  { verdict := (renderVerdict t b.program i.result).resolve
      (ExpectedFailure.reasonIn t.xfail b.environment) (isStrict t)
    millis := i.millis
    files }

def format (t : FormatTarget) : Check :=
  { id := "format::" ++ t.format
    priority := 50
    subject := .format
    describe := fun b => describeFormat t b.environment
    run := runFormat t }

end SmokeSuite.Check
