import SmokeSuite.Verdict

namespace SmokeSuite

/-- How many checks ended how. An unexpected pass that a strict marker forbids counts as failed. -/
structure Tally where
  passed : Nat := 0
  failed : Nat := 0
  skipped : Nat := 0
  xfailed : Nat := 0
  xpassed : Nat := 0
  deriving DecidableEq, Inhabited

namespace Tally

def count (t : Tally) : Verdict → Tally
  | .passed => { t with passed := t.passed + 1 }
  | .failed _ => { t with failed := t.failed + 1 }
  | .skipped _ => { t with skipped := t.skipped + 1 }
  | .xfailed _ => { t with xfailed := t.xfailed + 1 }
  | .xpassed _ true => { t with failed := t.failed + 1 }
  | .xpassed _ false => { t with xpassed := t.xpassed + 1 }

def ofVerdicts (vs : List Verdict) : Tally := vs.foldl count {}

def total (t : Tally) : Nat := t.passed + t.failed + t.skipped + t.xfailed + t.xpassed

def isSuccess (t : Tally) : Bool := t.failed == 0

def labelled (t : Tally) : List (Nat × String) :=
  [(t.failed, "failed"), (t.passed, "passed"), (t.skipped, "skipped"), (t.xfailed, "xfailed"),
    (t.xpassed, "xpassed")]

/-- All counts that are not zero. -/
def toText (t : Tally) : String :=
  let parts := (t.labelled.filter (·.1 > 0)).map fun (n, label) => toString n ++ " " ++ label
  if parts.isEmpty then "no checks ran" else ", ".intercalate parts

theorem total_count (t : Tally) (v : Verdict) : (t.count v).total = t.total + 1 := by
  rcases v with _ | _ | _ | _ | ⟨_, _ | _⟩ <;> simp only [count, total] <;> omega

theorem failed_count (t : Tally) (v : Verdict) :
    (t.count v).failed = t.failed + (if v.isFailure then 1 else 0) := by
  rcases v with _ | _ | _ | _ | ⟨_, _ | _⟩ <;> rfl

end Tally

end SmokeSuite
