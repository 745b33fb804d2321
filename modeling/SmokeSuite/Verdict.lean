namespace SmokeSuite

inductive Verdict where
  | passed
  | failed (message : String)
  | skipped (reason : String)
  | xfailed (reason : String)
  | xpassed (reason : String) (strict : Bool)
  deriving DecidableEq, Inhabited

namespace Verdict

def isFailure : Verdict → Bool
  | .failed _ => true
  | .xpassed _ strict => strict
  | _ => false

def label : Verdict → String
  | .passed => "PASSED"
  | .failed _ => "FAILED"
  | .skipped _ => "SKIPPED"
  | .xfailed _ => "XFAIL"
  | .xpassed .. => "XPASS"

def detail : Verdict → Option String
  | .passed => none
  | .failed s | .skipped s | .xfailed s | .xpassed s _ => some s

def toText (v : Verdict) : String :=
  match v.detail with
  | some d => v.label ++ ": " ++ d
  | none => v.label

/-- Applies the marker of an expected failure: a failure is forgiven and a pass is suspicious. -/
def resolve (v : Verdict) (marker : Option String) (strict : Bool) : Verdict :=
  match marker, v with
  | some reason, .failed _ => .xfailed reason
  | some reason, .passed => .xpassed reason strict
  | _, v => v

end Verdict

end SmokeSuite
