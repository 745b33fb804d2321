import SmokeSuite.Suite.Basic
import SmokeSuite.Json.Basic

namespace SmokeSuite.Suite

/-- A part of a suite that may not be empty. -/
inductive Part where
  | tools
  | dot
  | exclusionTools (index : Nat)
  | exclusionReason (index : Nat)
  | formatName (index : Nat)
  | formatSource (index : Nat)
  deriving DecidableEq, Inhabited

namespace Part

def entry (list : String) (index : Nat) (name : String) : String :=
  list ++ "[" ++ toString index ++ "]." ++ name

def path : Part → String
  | .tools => "tools"
  | .dot => "dot"
  | .exclusionTools i => entry "exclusions" i "tools"
  | .exclusionReason i => entry "exclusions" i "reason"
  | .formatName i => entry "formats" i "format"
  | .formatSource i => entry "formats" i "source"

def field : Part → String
  | .tools => "tools"
  | .dot => "dot"
  | .exclusionTools _ | .exclusionReason _ => "exclusions"
  | .formatName _ | .formatSource _ => "formats"

def fields : List String := ["tools", "dot", "exclusions", "formats"]

def explanation : Part → Option String
  | .tools => some "at least one tool is required"
  | .exclusionTools _ => some "an exclusion rule must name at least one tool"
  | _ => none

def emptyValue : Part → Json
  | .tools | .exclusionTools _ => .array []
  | _ => .string ""

def minLength : Nat := 1

def toJson (p : Part) : Json :=
  .object [
    ("code", .string "length"),
    ("message", .optional p.explanation),
    ("params", .object [("min", .nat minLength), ("value", p.emptyValue)]),
    ("path", .string p.path)]

/-- What is told where nothing is explained: the rule that is broken, with its parameters. -/
def brokenRule (p : Part) : String :=
  let value := match p with
    | .tools | .exclusionTools _ => "Array []"
    | _ => "String(\"\")"
  "Validation error: length [\x7b\"min\": Number(" ++ toString minLength ++ "), \"value\": " ++ value ++ "\x7d]"

def text (p : Part) : String := p.path ++ ": " ++ p.explanation.getD p.brokenRule

end Part

inductive Invalid where
  | emptyParts (parts : List Part)
  | repeatedTool (name : String)
  | repeatedFormat (name : String)
  deriving DecidableEq, Inhabited

/-- Each field with empty parts has a line, on which nothing stands between them. The library that tells them
has no order of fields and parameters; here it is that of the suite. -/
def Invalid.text : Invalid → String
  | .emptyParts parts =>
    let fields := Part.fields.filter fun field => parts.any (·.field == field)
    "\n".intercalate (fields.map fun field => String.join ((parts.filter (·.field == field)).map Part.text))
  | .repeatedTool name => "tool '" ++ name ++ "' is listed more than once"
  | .repeatedFormat name => "format '" ++ name ++ "' is listed more than once"

def check (isEmpty : Bool) (p : Part) : List Part := if isEmpty then [p] else []

def emptyInExclusions (i : Nat) : List Exclusion → List Part
  | [] => []
  | x :: xs =>
    check x.tools.isEmpty (.exclusionTools i) ++ check (x.reason == "") (.exclusionReason i) ++
      emptyInExclusions (i + 1) xs

def emptyInFormats (i : Nat) : List FormatTarget → List Part
  | [] => []
  | t :: ts =>
    check (t.format == "") (.formatName i) ++ check (t.source == "") (.formatSource i) ++
      emptyInFormats (i + 1) ts

def emptyParts (s : Suite) : List Part :=
  check s.tools.isEmpty .tools ++ check (s.dot == "") .dot ++ emptyInExclusions 0 s.exclusions ++
    emptyInFormats 0 s.formats

/-- Adds names to those seen, up to one that has been seen before. -/
def gather (repeated : String → Invalid) (seen : List String) :
    List String → Except Invalid (List String)
  | [] => .ok seen
  | n :: ns => if seen.contains n then .error (repeated n) else gather repeated (n :: seen) ns

structure Warning where
  message : String
  tool : String
  deriving DecidableEq, Inhabited

/-- What is logged about a name in an exclusion that is no tool of the suite. -/
def unusedNameMessage : String := "Exclusion rule names a tool that is not checked"

/-- Looks through a suite: finds what is wrong with it, or logs the names that exclude nothing. -/
def review (s : Suite) : Except Invalid (List Warning) := do
  if !s.emptyParts.isEmpty then throw (.emptyParts s.emptyParts)
  let seen ← gather .repeatedTool [] s.tools
  let _ ← gather .repeatedFormat [] (s.formats.map (·.format))
  return s.exclusions.flatMap fun x => (x.tools.filter (!seen.contains ·)).map (⟨unusedNameMessage, ·⟩)

def validate (s : Suite) : Except Invalid Unit := s.review.map fun _ => ()

/-- The names that a suite is warned about. -/
def unusedNames (s : Suite) : List String := (s.review.toOption.getD []).map (·.tool)

end SmokeSuite.Suite
