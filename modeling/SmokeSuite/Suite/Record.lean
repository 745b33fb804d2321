import SmokeSuite.Suite.Basic
import SmokeSuite.Json.Basic

namespace SmokeSuite

def Json.member (name : String) (j : Option Json) : List (String × Json) := (j.map (name, ·)).toList

def Condition.toJson (c : Condition) : Json :=
  .object (
    Json.member "os_id" (c.osId.map .string) ++
    Json.member "build_system" (c.buildSystem.map .string) ++
    Json.member "system" (c.system.map fun s => .string s.name) ++
    Json.member "not_system" (c.notSystem.map fun s => .string s.name) ++
    Json.member "asan" (c.asan.map .bool) ++
    Json.member "project_platform" (c.platform.map .string))

def issuesJson (issues : List UInt32) : Json := .array (issues.map fun n => .nat n.toNat)

def Exclusion.toJson (x : Exclusion) : Json :=
  .object [
    ("when", x.condition.toJson),
    ("tools", .strings x.tools),
    ("issues", issuesJson x.issues),
    ("reason", .string x.reason)]

def ExpectedFailure.toJson (x : ExpectedFailure) : Json :=
  .object [
    ("when", x.condition.toJson),
    ("reason", .string x.reason),
    ("strict", .bool x.strict)]

def FormatTarget.toJson (t : FormatTarget) : Json :=
  .object [
    ("format", .string t.format),
    ("source", .string t.source),
    ("issue", (t.issue.map fun n => Json.nat n.toNat).getD .null),
    ("xfail", (t.xfail.map ExpectedFailure.toJson).getD .null)]

def Suite.toJson (s : Suite) : Json :=
  .object [
    ("tools", .strings s.tools),
    ("exclusions", .array (s.exclusions.map Exclusion.toJson)),
    ("formats", .array (s.formats.map FormatTarget.toJson)),
    ("asan_jobs", .strings s.asanJobs),
    ("dot", .string s.dot)]

end SmokeSuite
