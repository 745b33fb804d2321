import SmokeSuite.Proofs.Roster.Order
import SmokeSuite.Proofs.Roster.Selection
import Mathlib.Data.List.Induction

namespace SmokeSuite.Roster

inductive Operation where
  | register (c : Check)
  | select (patterns : List String)

namespace Operation

/-- The roster afterwards, and the failure of a selection. -/
def apply (r : Roster) : Operation → Roster × Option Failure
  | .register c => (r.register c, none)
  | .select patterns => r.select patterns

def registers : Operation → List Check
  | .register c => [c]
  | .select _ => []

/-- Whether a check stays that was registered before. Only patterns that are all usable drop one. -/
def spares (c : Check) : Operation → Bool
  | .register _ => true
  | .select patterns =>
    patterns.isEmpty || !patterns.all Glob.isUsable || patterns.any (Glob.accepts · c.id)

end Operation

/-- The roster that a run of operations makes of an empty one. -/
def replay (ops : List Operation) : Roster := ops.foldl (fun r o => (o.apply r).1) empty

/-- The registered checks that every later operation spares, as they were registered. -/
def survivors : List Operation → List Check
  | [] => []
  | o :: later => o.registers.filter (fun c => later.all (·.spares c)) ++ survivors later

theorem replay_concat (ops : List Operation) (o : Operation) :
    replay (ops ++ [o]) = (o.apply (replay ops)).1 := by
  simp [replay]

theorem survivors_concat (ops : List Operation) (o : Operation) :
    survivors (ops ++ [o]) = (survivors ops).filter (o.spares ·) ++ o.registers := by
  induction ops with
  | nil => simp [survivors]
  | cons a later ih =>
    rw [List.cons_append, survivors, survivors, ih]
    simp [List.filter_filter, Bool.and_comm]

/-- One operation keeps the order of what is left, and puts what it registers behind its equals. -/
theorem StableOrder.apply {r : Roster} {registered : List Check}
    (h : StableOrder r.checks registered) (o : Operation) :
    StableOrder (o.apply r).1.checks (registered.filter (o.spares ·) ++ o.registers) := by
  cases o with
  | register c =>
    have hall : registered.filter ((Operation.register c).spares ·) = registered :=
      List.filter_eq_self.2 fun _ _ => rfl
    rw [hall]
    exact h.insert c
  | select patterns =>
    rw [Operation.registers, List.append_nil, Operation.apply, checks_select]
    exact h.filter _

theorem stableOrder_replay (ops : List Operation) :
    StableOrder (replay ops).checks (survivors ops) := by
  induction ops using List.reverseRecOn with
  | nil => exact StableOrder.nil
  | append_singleton ops o ih =>
    rw [replay_concat, survivors_concat]
    exact ih.apply o

/-- After any run of operations, failed selections included, a roster holds what survived, in order;
and the next selection either changes nothing or keeps exactly what a pattern accepts. -/
theorem replay_and_select (ops : List Operation) (patterns : List String) :
    StableOrder (replay ops).checks (survivors ops) ∧
    (replay ops).select [] = (replay ops, none) ∧
    (patterns ≠ [] → (∃ p ∈ patterns, Glob.isUsable p = false) →
      ∃ cause, (replay ops).select patterns = (replay ops, some (.badFilters cause))) ∧
    (patterns ≠ [] → (∀ p ∈ patterns, Glob.isUsable p = true) →
      ((replay ops).select patterns).1.checks =
        (replay ops).checks.filter (fun c => patterns.any (Glob.accepts · c.id)) ∧
      (((replay ops).select patterns).2 = some (.nothingSelected patterns) ↔
        ((replay ops).select patterns).1.checks = []) ∧
      (((replay ops).select patterns).2 = none ↔
        ((replay ops).select patterns).1.checks ≠ [])) := by
  refine ⟨stableOrder_replay ops, select_nil _, fun hne ⟨p, hp, hu⟩ => ?_, fun hne hu => ?_⟩
  · refine select_of_not_usable _ hne fun h => ?_
    rw [h p hp] at hu
    cases hu
  · rw [select_of_usable _ hne hu]
    refine ⟨rfl, ?_, ?_⟩
    · split
      · next he => simpa using he
      · next he => simpa using he
    · split
      · next he => simpa using he
      · next he => simpa using he

end SmokeSuite.Roster
