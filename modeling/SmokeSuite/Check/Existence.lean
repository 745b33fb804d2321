import SmokeSuite.Check.Basic

namespace SmokeSuite.Check

def describeExistence : Expectation → String
  | .mustExist => "must be on PATH"
  | .mustBeAbsent reason _ => "must be absent (" ++ reason ++ ")"

def resurrectedText (tool : String) (e : Snapshot) : String :=
  tool ++ " has been resurrected in the " ++ e.buildSystemText ++ " build on " ++ e.osIdText ++
    ". Please remove skip."

def existenceVerdict (tool : String) (expectation : Expectation) (b : Bench) (files : FileTree) : Verdict :=
  match expectation, b.locate files tool with
  | .mustExist, some _ => .passed
  | .mustExist, none => .failed (tool ++ " was not found on PATH")
  | .mustBeAbsent .., some _ => .failed (resurrectedText tool b.environment)
  | .mustBeAbsent reason _, none => .skipped reason

def existence (tool : String) (exclusions : List Exclusion) (e : Snapshot) : Check :=
  let expectation := Expectation.decide tool exclusions e
  { id := "existence::" ++ tool
    priority := 90
    subject := .existence expectation
    describe := fun _ => describeExistence expectation
    run := fun b files => { verdict := existenceVerdict tool expectation b files, files } }

end SmokeSuite.Check
