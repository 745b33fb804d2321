import SmokeSuite.Environment.Snapshot
import SmokeSuite.Expectation
import SmokeSuite.Files.Tree
import SmokeSuite.Invocation
import SmokeSuite.Verdict

namespace SmokeSuite

/-- All that a check may ask of the world outside. -/
structure Bench where
  environment : Snapshot
  /-- The path of a tool among some files, if it is installed. -/
  locate : FileTree → String → Option String
  /-- The layout binary, as messages name it. -/
  program : String
  /-- Runs the layout binary among some files with arguments and input, and gives the files as they are
  afterwards. -/
  invoke : FileTree → List String → Option (List UInt8) → Invocation × FileTree
  versionOverride : Option String := none

def Bench.expectedVersion (b : Bench) : Option String := b.versionOverride.or b.environment.version

inductive Subject where
  | existence (expectation : Expectation)
  | format
  | version
  | other
  deriving DecidableEq, Inhabited

/-- What comes of running a check. -/
structure Trial where
  verdict : Verdict
  /-- The milliseconds that it took. -/
  millis : Nat := 0
  files : FileTree
  deriving Inhabited

structure Check where
  id : String
  /-- Checks of higher priority run first. -/
  priority : Int := 0
  subject : Subject := .other
  describe : Bench → String
  run : Bench → FileTree → Trial

namespace Check

def fixed (id : String) (priority : Int) (verdict : Verdict) : Check :=
  { id, priority, describe := fun _ => "fixed", run := fun _ files => { verdict, files } }

end Check

end SmokeSuite
