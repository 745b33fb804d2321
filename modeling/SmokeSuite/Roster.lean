import SmokeSuite.Check.Existence
import SmokeSuite.Check.Format
import SmokeSuite.Check.Version
import SmokeSuite.Failure
import SmokeSuite.Report.Basic

namespace SmokeSuite

/-- Checks in the order in which they run: by priority, and of one priority as they were registered. -/
structure Roster where
  checks : List Check := []
  ordered : checks.Pairwise (fun a b => b.priority ≤ a.priority) := by exact .nil

namespace Roster

def empty : Roster := {}

def insert (c : Check) : List Check → List Check
  | [] => [c]
  | d :: ds => if c.priority ≤ d.priority then d :: insert c ds else c :: d :: ds

theorem mem_insert {c d : Check} {cs : List Check} : d ∈ insert c cs ↔ d = c ∨ d ∈ cs := by
  induction cs with
  | nil => simp [insert]
  | cons a as ih =>
    rw [insert]
    split
    · simp [ih, or_left_comm]
    · simp

theorem pairwise_insert {c : Check} {cs : List Check}
    (h : cs.Pairwise (fun a b => b.priority ≤ a.priority)) :
    (insert c cs).Pairwise (fun a b => b.priority ≤ a.priority) := by
  induction cs with
  | nil => simp [insert]
  | cons a as ih =>
    obtain ⟨ha, has⟩ := List.pairwise_cons.1 h
    rw [insert]
    split
    · next hc =>
      refine List.pairwise_cons.2 ⟨fun b hb => ?_, ih has⟩
      rcases mem_insert.1 hb with rfl | hb
      · exact hc
      · exact ha b hb
    · next hc =>
      refine List.pairwise_cons.2 ⟨fun b hb => ?_, h⟩
      rcases List.mem_cons.1 hb with rfl | hb
      · omega
      · have := ha b hb; omega

def register (r : Roster) (c : Check) : Roster := ⟨insert c r.checks, pairwise_insert r.ordered⟩

def ofSuite (s : Suite) (e : Snapshot) : Roster :=
  let checks := s.tools.map (Check.existence · s.exclusions e) ++ s.formats.map Check.format ++
    [Check.version]
  checks.foldl register empty

def filter (r : Roster) (p : Check → Bool) : Roster := ⟨r.checks.filter p, r.ordered.filter p⟩

def ids (r : Roster) : List String := r.checks.map (·.id)

/-- Keeps the checks whose name matches one of the patterns; without patterns, all of them. Patterns
that make no set leave the roster as it is. It is a failure if no check is left. -/
def select (r : Roster) (patterns : List String) : Roster × Option Failure :=
  if patterns.isEmpty then (r, none)
  else match Glob.PatternSet.ofTexts patterns with
    | .error cause => (r, some (.badFilters cause))
    | .ok globs =>
      let kept := r.filter fun c => globs.matchesText c.id
      (kept, if kept.checks.isEmpty then some (.nothingSelected patterns) else none)

def plan (r : Roster) (b : Bench) : List (String × String) :=
  r.checks.map fun c => (c.id, c.describe b)

/-- Runs checks one after the other, whatever they find. Each finds the files as the one before it left
them. -/
def results (b : Bench) : List Check → FileTree → List CheckResult × FileTree
  | [], files => ([], files)
  | c :: cs, files =>
    let t := c.run b files
    let (others, files) := results b cs t.files
    ({ id := c.id, verdict := t.verdict, millis := t.millis } :: others, files)

theorem map_id_results (b : Bench) (cs : List Check) (files : FileTree) :
    (results b cs files).1.map (·.id) = cs.map (·.id) := by
  induction cs generalizing files with
  | nil => rfl
  | cons c cs ih => simp [results, ih]

def run (r : Roster) (b : Bench) (startedAt : Instant) (files : FileTree) : Report × FileTree :=
  let (rs, files) := results b r.checks files
  (.ofResults startedAt b.environment b.program rs, files)

end Roster

end SmokeSuite
