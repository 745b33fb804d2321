import SmokeSuite.Suite.Basic
import SmokeSuite.Yaml.Load

namespace SmokeSuite

open Yaml (Decoder Halt)
open Yaml.Decoder (field required)

def HostSystem.decoder : Decoder HostSystem :=
  Decoder.variant HostSystem.ofName? (HostSystem.all.map (·.name))

namespace Condition

structure Draft where
  osId : Option (Option String) := none
  buildSystem : Option (Option String) := none
  system : Option (Option HostSystem) := none
  notSystem : Option (Option HostSystem) := none
  asan : Option (Option Bool) := none
  platform : Option (Option String) := none

def fields : List (Decoder.Field Draft) :=
  [field "os_id" (·.osId) (fun d x => { d with osId := some x }) (.optional .string),
   field "build_system" (·.buildSystem) (fun d x => { d with buildSystem := some x })
    (.optional .string),
   field "system" (·.system) (fun d x => { d with system := some x })
    (.optional HostSystem.decoder),
   field "not_system" (·.notSystem) (fun d x => { d with notSystem := some x })
    (.optional HostSystem.decoder),
   field "asan" (·.asan) (fun d x => { d with asan := some x }) (.optional .bool),
   field "project_platform" (·.platform) (fun d x => { d with platform := some x })
    (.optional .string)]

def Draft.finish (d : Draft) : Except Halt Condition :=
  .ok
    { osId := d.osId.getD none
      buildSystem := d.buildSystem.getD none
      system := d.system.getD none
      notSystem := d.notSystem.getD none
      asan := d.asan.getD none
      platform := d.platform.getD none }

def decoder : Decoder Condition := .record "Condition" fields {} Draft.finish

end Condition

namespace Exclusion

structure Draft where
  condition : Option Condition := none
  tools : Option (List String) := none
  issues : Option (List UInt32) := none
  reason : Option String := none

def fields : List (Decoder.Field Draft) :=
  [field "when" (·.condition) (fun d x => { d with condition := some x }) Condition.decoder,
   field "tools" (·.tools) (fun d x => { d with tools := some x }) (.list .string),
   field "issues" (·.issues) (fun d x => { d with issues := some x }) (.list .word32),
   field "reason" (·.reason) (fun d x => { d with reason := some x }) .string]

def Draft.finish (d : Draft) : Except Halt Exclusion := do
  let tools ← required "tools" d.tools
  let reason ← required "reason" d.reason
  .ok { condition := d.condition.getD {}, tools, issues := d.issues.getD [], reason }

def decoder : Decoder Exclusion := .record "ExclusionRule" fields {} Draft.finish

end Exclusion

namespace ExpectedFailure

structure Draft where
  condition : Option Condition := none
  reason : Option String := none
  strict : Option Bool := none

def fields : List (Decoder.Field Draft) :=
  [field "when" (·.condition) (fun d x => { d with condition := some x }) Condition.decoder,
   field "reason" (·.reason) (fun d x => { d with reason := some x }) .string,
   field "strict" (·.strict) (fun d x => { d with strict := some x }) .bool]

def Draft.finish (d : Draft) : Except Halt ExpectedFailure := do
  let reason ← required "reason" d.reason
  .ok { condition := d.condition.getD {}, reason, strict := d.strict.getD true }

def decoder : Decoder ExpectedFailure := .record "ExpectedFailure" fields {} Draft.finish

end ExpectedFailure

namespace FormatTarget

structure Draft where
  format : Option String := none
  source : Option String := none
  issue : Option (Option UInt32) := none
  xfail : Option (Option ExpectedFailure) := none

def fields : List (Decoder.Field Draft) :=
  [field "format" (·.format) (fun d x => { d with format := some x }) .string,
   field "source" (·.source) (fun d x => { d with source := some x }) .string,
   field "issue" (·.issue) (fun d x => { d with issue := some x }) (.optional .word32),
   field "xfail" (·.xfail) (fun d x => { d with xfail := some x })
    (.optional ExpectedFailure.decoder)]

def Draft.finish (d : Draft) : Except Halt FormatTarget := do
  let format ← required "format" d.format
  .ok
    { format
      source := d.source.getD defaultSource
      issue := d.issue.getD none
      xfail := d.xfail.getD none }

def decoder : Decoder FormatTarget := .record "FormatTarget" fields {} Draft.finish

end FormatTarget

namespace Suite

structure Draft where
  tools : Option (List String) := none
  exclusions : Option (List Exclusion) := none
  formats : Option (List FormatTarget) := none
  asanJobs : Option (List String) := none
  dot : Option String := none

def fields : List (Decoder.Field Draft) :=
  [field "tools" (·.tools) (fun d x => { d with tools := some x }) (.list .string),
   field "exclusions" (·.exclusions) (fun d x => { d with exclusions := some x })
    (.list Exclusion.decoder),
   field "formats" (·.formats) (fun d x => { d with formats := some x })
    (.list FormatTarget.decoder),
   field "asan_jobs" (·.asanJobs) (fun d x => { d with asanJobs := some x }) (.list .string),
   field "dot" (·.dot) (fun d x => { d with dot := some x }) .string]

def Draft.finish (d : Draft) : Except Halt Suite := do
  let tools ← required "tools" d.tools
  .ok
    { tools
      exclusions := d.exclusions.getD []
      formats := d.formats.getD []
      asanJobs := d.asanJobs.getD []
      dot := d.dot.getD defaultDot }

def decoder : Decoder Suite := .record "SmokeConfig" fields {} Draft.finish

end Suite

end SmokeSuite
