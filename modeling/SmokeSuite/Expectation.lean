import SmokeSuite.Suite.Basic
import SmokeSuite.Text.Substitution

namespace SmokeSuite

inductive Expectation where
  | mustExist
  | mustBeAbsent (reason : String) (issues : List UInt32)
  deriving DecidableEq, Inhabited

def replaceText (old new s : String) : String :=
  String.ofList (Text.replaceAll old.toList new.toList s.toList)

/-- A reason with the names in braces written out, one after the other. -/
def renderReason (template tool : String) (e : Snapshot) : String :=
  replaceText "\x7bbuild_system\x7d" e.buildSystemText
    (replaceText "\x7bos_id\x7d" e.osIdText (replaceText "\x7btool\x7d" tool template))

namespace Expectation

/-- Whether an exclusion speaks of a tool in an environment. -/
def concerns (x : Exclusion) (tool : String) (e : Snapshot) : Bool :=
  x.tools.contains tool && x.condition.holdsIn e

/-- The first exclusion that speaks of the tool decides; without one the tool must exist. -/
def decide (tool : String) (exclusions : List Exclusion) (e : Snapshot) : Expectation :=
  match exclusions.find? (concerns · tool e) with
  | some x => .mustBeAbsent (renderReason x.reason tool e) x.issues
  | none => .mustExist

end Expectation

end SmokeSuite
