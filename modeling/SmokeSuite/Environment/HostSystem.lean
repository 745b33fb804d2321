namespace SmokeSuite

inductive HostSystem where
  | linux
  | darwin
  | windows
  | other
  deriving DecidableEq, Inhabited

namespace HostSystem

def all : List HostSystem := [.linux, .darwin, .windows, .other]

def name : HostSystem → String
  | .linux => "Linux"
  | .darwin => "Darwin"
  | .windows => "Windows"
  | .other => "Other"

def ofName? (s : String) : Option HostSystem := all.find? (·.name == s)

theorem mem_all (h : HostSystem) : h ∈ all := by cases h <;> simp [all]

theorem ofName?_name (h : HostSystem) : ofName? h.name = some h := by cases h <;> decide

end HostSystem

end SmokeSuite
