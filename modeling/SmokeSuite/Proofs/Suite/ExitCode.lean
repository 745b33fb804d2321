import SmokeSuite.Proofs.Check.Failure
import SmokeSuite.Proofs.Roster.Run

namespace SmokeSuite

/-- What a bench has to answer for a suite to be clean. -/
structure Suite.IsClean (s : Suite) (b : Bench) (files : FileTree) : Prop where
  /-- A tool is found exactly if no exclusion speaks of it. -/
  tools : ∀ tool ∈ s.tools, (b.locate files tool).isSome = true ↔
    Expectation.decide tool s.exclusions b.environment = .mustExist
  /-- No render succeeds against a strict marker that applies. -/
  marked : ∀ t ∈ s.formats, ∀ x, t.xfail = some x → x.condition.holdsIn b.environment = true →
    ¬ (x.strict = true ∧ Succeeds (Check.renderAnswer t b files))
  /-- Every render without such a marker succeeds. -/
  unmarked : ∀ t ∈ s.formats, (∀ x, t.xfail = some x → x.condition.holdsIn b.environment = false) →
    Succeeds (Check.renderAnswer t b files)
  /-- The layout binary reports the expected version, as the fifth word of what it writes. -/
  version : ∃ expected, b.versionOverride.or b.environment.version = some expected ∧
    ∃ o, Check.versionAnswer b files = .ok o ∧ o.status.isSuccess = true ∧
      (Text.words o.merged)[4]? = some expected.toList

namespace Roster

theorem isClean_iff (s : Suite) (b : Bench) (files : FileTree) :
    s.IsClean b files ↔
      ∀ c ∈ (ofSuite s b.environment).checks, (c.run b files).verdict.isFailure = false := by
  rw [forall_mem_ofSuite]
  constructor
  · intro h
    refine ⟨fun tool ht => ?_, fun t ht => ?_, ?_⟩
    · exact (Check.isFailure_existenceVerdict tool _ b files).2 (h.tools tool ht)
    · exact (Check.isFailure_runFormat t b files).2 ⟨h.marked t ht, h.unmarked t ht⟩
    · exact (Check.isFailure_runVersion b files).2 h.version
  · rintro ⟨htools, hformats, hversion⟩
    refine ⟨fun tool ht => ?_, fun t ht => ?_, fun t ht => ?_, ?_⟩
    · exact (Check.isFailure_existenceVerdict tool _ b files).1 (htools tool ht)
    · exact ((Check.isFailure_runFormat t b files).1 (hformats t ht)).1
    · exact ((Check.isFailure_runFormat t b files).1 (hformats t ht)).2
    · exact (Check.isFailure_runVersion b files).1 hversion

/-- Where the answers hang on the questions alone, a suite exits with zero exactly if it is clean, and
else with one. -/
theorem exitCode_run_ofSuite (s : Suite) (b : Bench) (hb : b.IsSteady) (startedAt : Instant)
    (files : FileTree) :
    let report := ((ofSuite s b.environment).run b startedAt files).1
    (report.exitCode = 0 ↔ s.IsClean b files) ∧ (report.exitCode = 1 ↔ ¬ s.IsClean b files) := by
  intro report
  have hzero : report.exitCode = 0 ↔ s.IsClean b files := by
    rw [exitCode_run_eq_zero_iff, isClean_iff,
      findings_run (fun c hc => isSettled_of_mem_ofSuite hb hc) startedAt files files]
    simp only [List.forall_mem_map]
  refine ⟨hzero, ?_⟩
  rw [Report.exitCode_eq_one_iff]
  exact not_congr hzero

/-- An absent tool that is excluded, a render that fails as it should, and the version as the fifth
word: a clean suite. -/
theorem exitCode_run_ofSuite_of_gaps :
    let s : Suite :=
      { tools := ["dot", "mingle"]
        exclusions := [{ tools := ["mingle"], reason := "no ANN", condition := { osId := some "ubuntu" } }]
        formats := [{ format := "svg" }, { format := "png:gd", xfail := some { reason := "no gd" } }] }
    let b := Bench.ofAnswers { osId := some "ubuntu" } "dot" (some "2.49.0")
      (fun tool => if tool = "dot" then some "/usr/bin/dot" else none)
      (fun arguments _ => .ok
        { status := .exited (if arguments = ["-Tpng:gd"] then 1 else 0)
          stdout := []
          stderr := Text.Utf8.encode "dot - graphviz version 2.49.0 (0)".toList })
    b.IsSteady ∧ ((ofSuite s b.environment).run b ⟨0, 0⟩ {}).1.exitCode = 0 ∧ s.IsClean b {} := by
  intro s b
  have hb : b.IsSteady := Bench.isSteady_ofAnswers ..
  have hzero : ((ofSuite s b.environment).run b ⟨0, 0⟩ {}).1.exitCode = 0 := by decide +kernel
  exact ⟨hb, hzero, (exitCode_run_ofSuite s b hb ⟨0, 0⟩ {}).1.1 hzero⟩

end Roster

end SmokeSuite
