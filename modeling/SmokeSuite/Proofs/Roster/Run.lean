import SmokeSuite.Proofs.Check.Steady
import SmokeSuite.Proofs.Roster.Order
import SmokeSuite.Proofs.Roster.Selection
import SmokeSuite.Proofs.Tally.Counting

namespace SmokeSuite

/-- What a report tells: the name of each check and its verdict. -/
def Report.findings (r : Report) : List (String × Verdict) := r.results.map fun x => (x.id, x.verdict)

namespace Roster

/-- The result at a place comes from the check there, among the files that those before it left. -/
theorem getElem?_results (b : Bench) (cs : List Check) (files : FileTree) (i : Nat) :
    (results b cs files).1[i]? = cs[i]?.map fun c =>
      let t := c.run b (results b (cs.take i) files).2
      { id := c.id, verdict := t.verdict, millis := t.millis } := by
  induction cs generalizing i files with
  | nil => rfl
  | cons c cs ih =>
    cases i with
    | zero => rfl
    | succ i =>
      rw [results, List.getElem?_cons_succ, ih]
      rfl

theorem map_finding_results {b : Bench} {cs : List Check} (h : ∀ c ∈ cs, c.IsSettled b)
    (files before : FileTree) :
    (results b cs files).1.map (fun x => (x.id, x.verdict)) =
      cs.map fun c => (c.id, (c.run b before).verdict) := by
  induction cs generalizing files with
  | nil => rfl
  | cons c cs ih =>
    obtain ⟨hc, hcs⟩ := List.forall_mem_cons.1 h
    rw [results, List.map_cons, ih hcs, hc files before]
    rfl

theorem findings_run {r : Roster} {b : Bench} (h : ∀ c ∈ r.checks, c.IsSettled b)
    (startedAt : Instant) (files before : FileTree) :
    (r.run b startedAt files).1.findings =
      r.checks.map fun c => (c.id, (c.run b before).verdict) :=
  map_finding_results h files before

theorem tally_run (r : Roster) (b : Bench) (startedAt : Instant) (files : FileTree) :
    (r.run b startedAt files).1.tally =
      .ofVerdicts ((r.run b startedAt files).1.results.map (·.verdict)) := rfl

/-- A run ends well if none of its findings is a failure. -/
theorem exitCode_run_eq_zero_iff (r : Roster) (b : Bench) (startedAt : Instant) (files : FileTree) :
    (r.run b startedAt files).1.exitCode = 0 ↔
      ∀ x ∈ (r.run b startedAt files).1.findings, x.2.isFailure = false := by
  rw [Report.exitCode_eq_zero_iff, tally_run, Tally.isSuccess_ofVerdicts, Report.findings]
  simp

theorem isSettled_of_mem_ofSuite {s : Suite} {e : Snapshot} {b : Bench} (hb : b.IsSteady) {c : Check}
    (hc : c ∈ (ofSuite s e).checks) : c.IsSettled b := by
  have hall : ∀ c ∈ (ofSuite s e).checks, c.IsSettled b := by
    rw [forall_mem_ofSuite]
    refine ⟨fun tool _ => ?_, fun t _ => ?_, ?_⟩
    · exact Check.isSettled_existence tool s.exclusions e hb
    · exact Check.isSettled_format t hb
    · exact Check.isSettled_version hb
  exact hall c hc

/-- Selecting commutes with running: a run of what was selected tells what the full run tells about
it. So it cannot fail where the full run does not. -/
theorem run_select (r : Roster) (b : Bench) (hb : ∀ c ∈ r.checks, c.IsSettled b)
    (patterns : List String) (hs : (r.select patterns).2 = none) (startedAt startedAt' : Instant)
    (files files' : FileTree) :
    let full := (r.run b startedAt files).1
    let part := ((r.select patterns).1.run b startedAt' files').1
    part.findings = full.findings.filter
      (fun x => patterns.isEmpty || patterns.any (Glob.accepts · x.1)) ∧
    full.findings = r.checks.map (fun c => (c.id, (c.run b files).verdict)) ∧
    full.tally = .ofVerdicts (full.results.map (·.verdict)) ∧
    part.tally = .ofVerdicts (part.results.map (·.verdict)) ∧
    (full.exitCode = 0 → part.exitCode = 0) ∧
    (part.exitCode = 1 → full.exitCode = 1) := by
  intro full part
  have hkept := checks_select_of_succeeds hs
  have hpart : ∀ c ∈ (r.select patterns).1.checks, c.IsSettled b := by
    intro c hc
    rw [hkept] at hc
    exact hb c (List.mem_filter.1 hc).1
  have hfindings : part.findings = full.findings.filter
      (fun x => patterns.isEmpty || patterns.any (Glob.accepts · x.1)) := by
    rw [findings_run hpart startedAt' files' files, findings_run hb startedAt files files, hkept,
      List.filter_map]
    rfl
  have hzero : full.exitCode = 0 → part.exitCode = 0 := by
    rw [exitCode_run_eq_zero_iff, exitCode_run_eq_zero_iff, hfindings]
    exact fun h x hx => h x (List.mem_filter.1 hx).1
  refine ⟨hfindings, findings_run hb startedAt files files, rfl, rfl, hzero, fun hone => ?_⟩
  rw [Report.exitCode_eq_one_iff] at hone ⊢
  exact fun h => hone (hzero h)

/-- The selected part of a suite can end well where the whole one fails. -/
theorem run_select_existence :
    let b := Bench.ofAnswers {} "dot" none (fun tool => if tool = "dot" then some "/bin/dot" else none)
      (fun _ _ => .error (.notStarted "dot" .zeroInArgument))
    let r := ofSuite { tools := ["dot", "neato"], formats := [{ format := "svg" }] } b.environment
    let full := (r.run b ⟨0, 0⟩ {}).1
    let part := ((r.select ["existence::d*"]).1.run b ⟨1, 0⟩ {}).1
    (∀ c ∈ r.checks, c.IsSettled b) ∧ (r.select ["existence::d*"]).2 = none ∧
      part.findings = full.findings.filter (fun x => Glob.accepts "existence::d*" x.1) ∧
      part.exitCode = 0 ∧ full.exitCode = 1 := by
  intro b r full part
  have hb : ∀ c ∈ r.checks, c.IsSettled b := fun c hc =>
    isSettled_of_mem_ofSuite (Bench.isSteady_ofAnswers ..) hc
  have hs : (r.select ["existence::d*"]).2 = none :=
    Option.isNone_iff_eq_none.1 (by decide +kernel)
  have h := (run_select r b hb ["existence::d*"] hs ⟨0, 0⟩ ⟨1, 0⟩ {} {}).1
  refine ⟨hb, hs, ?_, by decide +kernel, by decide +kernel⟩
  simpa using h

/-- Without patterns nothing is accepted, and yet everything is kept. -/
theorem run_select_nil_keeps_unaccepted :
    ¬ ∀ (r : Roster) (b : Bench), (∀ c ∈ r.checks, c.IsSettled b) →
      ∀ patterns : List String, (r.select patterns).2 = none →
      ∀ (startedAt : Instant) (files : FileTree),
        ((r.select patterns).1.run b startedAt files).1.findings =
          (r.run b startedAt files).1.findings.filter
            (fun x => patterns.any (Glob.accepts · x.1)) := by
  intro h
  have hc := h (({} : Roster).register (Check.fixed "a" 0 .passed))
    (Bench.ofAnswers {} "dot" none (fun _ => none) (fun _ _ => .error (.notStarted "dot" .zeroInArgument)))
    (fun c hc => ?_) [] rfl ⟨0, 0⟩ {}
  · revert hc
    decide +kernel
  · rw [List.mem_singleton.1 hc]
    exact fun _ _ => rfl

end Roster

end SmokeSuite
