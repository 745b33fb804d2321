import SmokeSuite.Environment.HostSystem

namespace SmokeSuite

structure Snapshot where
  osId : Option String := none
  buildSystem : Option String := none
  jobName : Option String := none
  version : Option String := none
  platform : Option String := none
  system : HostSystem := .linux
  asan : Bool := false
  deriving DecidableEq, Inhabited

namespace Snapshot

def osIdVariable : String := "OS_ID"
def buildSystemVariable : String := "build_system"
def jobNameVariable : String := "CI_JOB_NAME"
def versionVariable : String := "GV_VERSION"
def platformVariable : String := "project_platform"

def nonEmpty (v : Option String) : Option String := v.filter (· ≠ "")

/-- Takes the snapshot from a source of variables. The host's own name for its operating system
counts where no variable names it; a job of the list is one with the address sanitizer. -/
def ofLookup (lookup : String → Option String) (hostOsId : Option String) (system : HostSystem)
    (asanJobs : List String) : Snapshot :=
  let jobName := nonEmpty (lookup jobNameVariable)
  { osId := (nonEmpty (lookup osIdVariable)).or hostOsId
    buildSystem := nonEmpty (lookup buildSystemVariable)
    jobName
    version := nonEmpty (lookup versionVariable)
    platform := nonEmpty (lookup platformVariable)
    system
    asan := jobName.any asanJobs.contains }

def osIdText (s : Snapshot) : String := s.osId.getD "<unknown os>"

def buildSystemText (s : Snapshot) : String := s.buildSystem.getD "<unset>"

end Snapshot

end SmokeSuite
