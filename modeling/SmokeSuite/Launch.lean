import SmokeSuite.Shell.Start
import SmokeSuite.Utility.Table

namespace SmokeSuite

def shellNames : List String := ["sh", "dash"]

/-- How programs start that take each other's place so often at most. -/
def launch : Nat → Launcher
  | 0, _, _, _ => .exit 126
  | depth + 1, name, words, environment =>
    if shellNames.contains (String.ofList name) then
      Shell.program (launch depth) words environment
    else (Utility.start? (launch depth) name words environment).getD (.exit 126)

def maxLaunches : Nat := 1000000000

end SmokeSuite
