import SmokeSuite.Report.Basic
import SmokeSuite.Json.Writer

namespace SmokeSuite

def Snapshot.toJson (s : Snapshot) : Json :=
  .object [
    ("os_id", .optional s.osId),
    ("build_system", .optional s.buildSystem),
    ("ci_job_name", .optional s.jobName),
    ("gv_version", .optional s.version),
    ("project_platform", .optional s.platform),
    ("system", .string s.system.name),
    ("asan", .bool s.asan)]

namespace Verdict

def status : Verdict → String
  | .passed => "passed"
  | .failed _ => "failed"
  | .skipped _ => "skipped"
  | .xfailed _ => "xfailed"
  | .xpassed .. => "xpassed"

def toJson (v : Verdict) : Json :=
  .object (("status", .string v.status) ::
    match v with
    | .passed => []
    | .failed text | .skipped text | .xfailed text => [("detail", .string text)]
    | .xpassed reason strict =>
      [("detail", .object [("reason", .string reason), ("strict", .bool strict)])])

end Verdict

def CheckResult.toJson (c : CheckResult) : Json :=
  .object [
    ("id", .string c.id),
    ("outcome", c.verdict.toJson),
    ("duration_ms", .nat c.millis)]

def Tally.toJson (t : Tally) : Json :=
  .object [
    ("passed", .nat t.passed),
    ("failed", .nat t.failed),
    ("skipped", .nat t.skipped),
    ("xfailed", .nat t.xfailed),
    ("xpassed", .nat t.xpassed)]

namespace Report

def toJson (r : Report) : Json :=
  .object [
    ("started_at", .string r.startedAt.toText),
    ("environment", r.environment.toJson),
    ("dot", .string r.dot),
    ("results", .array (r.results.map CheckResult.toJson)),
    ("summary", r.tally.toJson)]

def toRecord (r : Report) : String := r.toJson.toPretty

end Report

end SmokeSuite
