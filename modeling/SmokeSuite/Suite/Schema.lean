import SmokeSuite.Suite.Basic
import SmokeSuite.Suite.Record
import SmokeSuite.Json.Writer

namespace SmokeSuite

/-- What a value may be. -/
inductive Shape where
  | string (nonEmpty : Bool)
  | boolean
  | word32
  | list (nonEmpty : Bool) (item : Shape)
  | named (name : String)
  | optional (shape : Shape)
  deriving DecidableEq, Inhabited

structure Property where
  name : String
  description : Option String := none
  default : Option Json := none
  required : Bool := false
  shape : Shape
  deriving Inhabited

inductive Definition where
  /-- An object with these properties and no others. -/
  | record (description : Option String) (properties : List Property)
  | enumeration (description : String) (names : List String)
  deriving Inhabited

structure Schema where
  title : String
  root : Definition
  definitions : List (String × Definition)
  deriving Inhabited

namespace Shape

/-- The least length, for what may not be empty. -/
def least (key : String) (nonEmpty : Bool) : List (String × Json) :=
  if nonEmpty then [(key, .nat 1)] else []

def reference (name : String) : Json := .object [("$ref", .string ("#/definitions/" ++ name))]

def bounds : Shape → List (String × Json)
  | .word32 => [("format", .string "uint32"), ("minimum", .number ⟨false, 0, -1⟩)]
  | _ => []

def typeName : Shape → String
  | .string _ => "string"
  | .boolean => "boolean"
  | .word32 => "integer"
  | .list .. => "array"
  | .named _ => "object"
  | .optional s => s.typeName

/-- The members that describe a shape. `alone` tells that there are no others beside them. -/
def members (alone : Bool) : Shape → List (String × Json)
  | .string nonEmpty => ("type", .string "string") :: least "minLength" nonEmpty
  | .boolean => [("type", .string "boolean")]
  | .word32 => ("type", .string "integer") :: bounds .word32
  | .list nonEmpty item =>
    [("type", .string "array"), ("items", .object (item.members true))] ++
      least "minItems" nonEmpty
  | .named name =>
    if alone then [("$ref", .string ("#/definitions/" ++ name))]
    else [("allOf", .array [reference name])]
  | .optional (.named name) =>
    [("anyOf", .array [reference name, .object [("type", .string "null")]])]
  | .optional s => ("type", .strings [s.typeName, "null"]) :: s.bounds

end Shape

def Property.toJson (p : Property) : Json :=
  let about := Json.member "description" (p.description.map .string) ++
    Json.member "default" p.default
  .object (about ++ p.shape.members about.isEmpty)

namespace Definition

def requiredNames (properties : List Property) : List String :=
  (properties.filter (·.required)).map (·.name)

def members : Definition → List (String × Json)
  | .record description properties =>
    Json.member "description" (description.map .string) ++
    [("type", .string "object")] ++
    (if (requiredNames properties).isEmpty then []
      else [("required", .strings (requiredNames properties))]) ++
    [("properties", .object (properties.map fun p => (p.name, p.toJson))),
      ("additionalProperties", .bool false)]
  | .enumeration description names =>
    [("description", .string description), ("type", .string "string"), ("enum", .strings names)]

end Definition

namespace Schema

def toJson (s : Schema) : Json :=
  .object ([("$schema", .string "http://json-schema.org/draft-07/schema#"),
    ("title", .string s.title)] ++ s.root.members ++
    [("definitions", .object (s.definitions.map fun (name, d) => (name, .object d.members)))])

def toText (s : Schema) : String := s.toJson.toPretty

end Schema

namespace Suite

def conditionDefinition : Definition :=
  .record (some "Environment predicate. Unset fields match anything.")
    [{ name := "asan", shape := .optional .boolean },
     { name := "build_system", shape := .optional (.string false) },
     { name := "not_system", shape := .optional (.named "HostSystem") },
     { name := "os_id", shape := .optional (.string false) },
     { name := "project_platform", shape := .optional (.string false) },
     { name := "system", shape := .optional (.named "HostSystem") }]

def exclusionDefinition : Definition :=
  .record none
    [{ name := "issues"
       description := some "Upstream issues tracking the gap"
       default := some (.array [])
       shape := .list false .word32 },
     { name := "reason"
       description := some
        "Skip reason; `\x7btool\x7d`, `\x7bos_id\x7d` and `\x7bbuild_system\x7d` are expanded"
       required := true
       shape := .string true },
     { name := "tools", required := true, shape := .list true (.string false) },
     { name := "when", default := some ({} : Condition).toJson, shape := .named "Condition" }]

def expectedFailureDefinition : Definition :=
  .record none
    [{ name := "reason", required := true, shape := .string false },
     { name := "strict"
       description := some "An unexpected pass counts as a failure"
       default := some (.bool true)
       shape := .boolean },
     { name := "when", default := some ({} : Condition).toJson, shape := .named "Condition" }]

def formatDefinition : Definition :=
  .record none
    [{ name := "format"
       description := some "`-T` argument, e.g. `png:gd`"
       required := true
       shape := .string true },
     { name := "issue", default := some .null, shape := .optional .word32 },
     { name := "source"
       description := some "Graph fed on stdin"
       default := some (.string defaultSource)
       shape := .string true },
     { name := "xfail", default := some .null, shape := .optional (.named "ExpectedFailure") }]

def rootDefinition : Definition :=
  .record (some "Smoke suite definition: what must be installed and what must work")
    [{ name := "asan_jobs"
       description := some "CI job names whose binaries are built with AddressSanitizer"
       default := some (.array [])
       shape := .list false (.string false) },
     { name := "dot"
       description := some "Binary used for format and version checks"
       default := some (.string defaultDot)
       shape := .string true },
     { name := "exclusions"
       description := some "Known gaps; first matching rule wins"
       default := some (.array [])
       shape := .list false (.named "ExclusionRule") },
     { name := "formats"
       description := some "Output formats rendered through the layout binary"
       default := some (.array [])
       shape := .list false (.named "FormatTarget") },
     { name := "tools"
       description := some "Expected tool names, checked in this order"
       required := true
       shape := .list true (.string false) }]

def schema : Schema where
  title := "SmokeConfig"
  root := rootDefinition
  definitions :=
    [("Condition", conditionDefinition),
     ("ExclusionRule", exclusionDefinition),
     ("ExpectedFailure", expectedFailureDefinition),
     ("FormatTarget", formatDefinition),
     ("HostSystem", .enumeration
      "Operating system family of the host running the checks, named as `uname -s` reports them."
      (HostSystem.all.map (·.name)))]

end Suite

end SmokeSuite
