import SmokeSuite.Environment.Snapshot

namespace SmokeSuite

/-- A fact about each part of the environment; a part without one may be anything. -/
structure Condition where
  osId : Option String := none
  buildSystem : Option String := none
  system : Option HostSystem := none
  notSystem : Option HostSystem := none
  asan : Option Bool := none
  platform : Option String := none
  deriving DecidableEq, Inhabited

namespace Condition

/-- A part that is asked for must be there and equal. -/
def agrees (expected actual : Option String) : Bool := expected.all (actual == some ·)

def holdsIn (c : Condition) (e : Snapshot) : Bool :=
  agrees c.osId e.osId && agrees c.buildSystem e.buildSystem && agrees c.platform e.platform &&
    c.system.all (· == e.system) && c.notSystem.all (· != e.system) && c.asan.all (· == e.asan)

end Condition

end SmokeSuite
