import SmokeSuite.Suite.Condition

namespace SmokeSuite

/-- A known gap: where the condition holds, the tools must be absent. -/
structure Exclusion where
  condition : Condition := {}
  tools : List String
  issues : List UInt32 := []
  reason : String
  deriving DecidableEq, Inhabited

/-- A marker for a render that fails where the condition holds. -/
structure ExpectedFailure where
  condition : Condition := {}
  reason : String
  strict : Bool := true
  deriving DecidableEq, Inhabited

/-- The graph that is rendered where a target gives none. -/
def defaultSource : String := "digraph \x7b a -> b; \x7d"

/-- An output format and the graph to render in it. -/
structure FormatTarget where
  format : String
  source : String := defaultSource
  issue : Option UInt32 := none
  xfail : Option ExpectedFailure := none
  deriving DecidableEq, Inhabited

def defaultDot : String := "dot"

/-- What is expected of an installation: the tools that must be there but for the gaps, and the formats that
the layout binary must render. -/
structure Suite where
  tools : List String
  exclusions : List Exclusion := []
  formats : List FormatTarget := []
  asanJobs : List String := []
  dot : String := defaultDot
  deriving DecidableEq, Inhabited

def ExpectedFailure.reasonIn (x : Option ExpectedFailure) (e : Snapshot) : Option String :=
  (x.filter (·.condition.holdsIn e)).map (·.reason)

end SmokeSuite
