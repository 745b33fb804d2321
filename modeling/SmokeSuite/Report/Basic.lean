import SmokeSuite.Environment.Snapshot
import SmokeSuite.Instant
import SmokeSuite.Tally

namespace SmokeSuite

structure CheckResult where
  id : String
  verdict : Verdict
  millis : Nat
  deriving DecidableEq, Inhabited

structure Report where
  startedAt : Instant
  environment : Snapshot
  dot : String
  results : List CheckResult
  tally : Tally
  deriving DecidableEq, Inhabited

namespace Report

def ofResults (startedAt : Instant) (environment : Snapshot) (dot : String)
    (results : List CheckResult) : Report :=
  { startedAt, environment, dot, results, tally := .ofVerdicts (results.map (·.verdict)) }

def exitCode (r : Report) : Nat := if r.tally.isSuccess then 0 else 1

end Report

end SmokeSuite
