import SmokeSuite.Proofs.Check.Description
import SmokeSuite.Proofs.Roster.Run

namespace SmokeSuite.Roster

/-- What stands at a place of the plan and of a run, for the check at that place. The check finds the
files as those before it left them. -/
theorem getElem?_plan_run {r : Roster} {i : Nat} {c : Check} (h : r.checks[i]? = some c) (b : Bench)
    (startedAt : Instant) (files : FileTree) :
    (r.plan b)[i]? = some (c.id, c.describe b) ∧
      ∃ x, (r.run b startedAt files).1.results[i]? = some x ∧
        x.verdict = (c.run b (results b (r.checks.take i) files).2).verdict := by
  refine ⟨by simp [plan, h], ?_⟩
  have hx := getElem?_results b r.checks files i
  rw [h] at hx
  exact ⟨_, hx, rfl⟩

theorem getElem?_checks_existence {s : Suite} {i : Nat} {tool : String} (h : s.tools[i]? = some tool)
    (e : Snapshot) : (ofSuite s e).checks[i]? = some (Check.existence tool s.exclusions e) := by
  have hi : i < s.tools.length := (List.getElem?_eq_some_iff.1 h).1
  rw [checks_ofSuite, List.append_assoc, List.getElem?_append_left (by simpa using hi),
    List.getElem?_map, h]
  rfl

theorem getElem?_checks_format {s : Suite} {i : Nat} {t : FormatTarget} (h : s.formats[i]? = some t)
    (e : Snapshot) : (ofSuite s e).checks[s.tools.length + i]? = some (Check.format t) := by
  have hi : i < s.formats.length := (List.getElem?_eq_some_iff.1 h).1
  rw [checks_ofSuite, List.append_assoc, List.getElem?_append_right (by simp), List.length_map,
    Nat.add_sub_cancel_left, List.getElem?_append_left (by simpa using hi), List.getElem?_map, h]
  rfl

theorem getElem?_checks_version (s : Suite) (e : Snapshot) :
    (ofSuite s e).checks[s.tools.length + s.formats.length]? = some Check.version := by
  rw [checks_ofSuite, List.getElem?_append_right (by simp)]
  simp

/-- The plan announces what a run finds: the same checks in the same order, and for each of them a
description that agrees with its verdict, on every bench and whatever the checks do to the files. -/
theorem plan_agrees_with_run (s : Suite) (b : Bench) (startedAt : Instant) (files : FileTree) :
    let r := ofSuite s b.environment
    let plan := r.plan b
    let found := (r.run b startedAt files).1.results
    let last := s.tools.length + s.formats.length
    plan.map (·.1) = found.map (·.id) ∧ plan.length = last + 1 ∧
    (∀ (i : Nat) (tool : String), s.tools[i]? = some tool →
      ∃ d x, plan[i]? = some ("existence::" ++ tool, d) ∧ found[i]? = some x ∧
        Check.ExistenceAgreement tool b.environment d x.verdict) ∧
    (∀ (i : Nat) (t : FormatTarget), s.formats[i]? = some t →
      ∃ d x, plan[s.tools.length + i]? = some ("format::" ++ t.format, d) ∧
        found[s.tools.length + i]? = some x ∧ Check.FormatAgreement t d x.verdict) ∧
    ∃ d x, plan[last]? = some ("version", d) ∧ found[last]? = some x ∧
      Check.VersionAgreement b (Check.versionAnswer b (results b (r.checks.take last) files).2)
        d x.verdict := by
  intro r plan found last
  refine ⟨?_, ?_, fun i tool h => ?_, fun i t h => ?_, ?_⟩
  · calc
      plan.map (·.1) = r.checks.map (·.id) := by simp [plan, Roster.plan]
      _ = found.map (·.id) := (map_id_results b r.checks files).symm
  · calc
      plan.length = r.checks.length := List.length_map _
      _ = last + 1 := by
        rw [checks_ofSuite]
        simp only [List.length_append, List.length_map, List.length_singleton, last]
  · obtain ⟨hp, x, hx, hv⟩ :=
      getElem?_plan_run (getElem?_checks_existence h b.environment) b startedAt files
    exact ⟨_, x, hp, hx, hv ▸ Check.existenceAgreement tool _ b _⟩
  · obtain ⟨hp, x, hx, hv⟩ :=
      getElem?_plan_run (getElem?_checks_format h b.environment) b startedAt files
    exact ⟨_, x, hp, hx, hv ▸ Check.formatAgreement t b _⟩
  · obtain ⟨hp, x, hx, hv⟩ :=
      getElem?_plan_run (getElem?_checks_version s b.environment) b startedAt files
    exact ⟨_, x, hp, hx, hv ▸ Check.versionAgreement b _⟩

end SmokeSuite.Roster
