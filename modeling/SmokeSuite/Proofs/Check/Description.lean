import SmokeSuite.Proofs.Check.Failure

namespace SmokeSuite.Check

/-- The check that a tool is there: what is announced, and what is found. -/
structure ExistenceAgreement (tool : String) (e : Snapshot) (description : String)
    (v : Verdict) : Prop where
  present : description = "must be on PATH" ↔
    v = .passed ∨ v = .failed (tool ++ " was not found on PATH")
  absent : ∀ reason, description = "must be absent (" ++ reason ++ ")" →
    v = .skipped reason ∨ v = .failed (resurrectedText tool e)
  skipped : ∀ reason, v = .skipped reason → description = "must be absent (" ++ reason ++ ")"
  resurrected : v = .failed (resurrectedText tool e) →
    ∃ reason, description = "must be absent (" ++ reason ++ ")"
  unmarked : ∀ reason strict, v ≠ .xfailed reason ∧ v ≠ .xpassed reason strict

/-- The check that a format renders: what is announced, and what is found. -/
structure FormatAgreement (t : FormatTarget) (description : String) (v : Verdict) : Prop where
  plain : description = "-T" ++ t.format ++ " must render" ↔
    v = .passed ∨ ∃ message, v = .failed message
  marked : ∀ reason,
    description = "-T" ++ t.format ++ " must render (expected to fail: " ++ reason ++ ")" ↔
      v = .xfailed reason ∨ ∃ strict, v = .xpassed reason strict
  unskipped : ∀ reason, v ≠ .skipped reason

/-- A report of the version was compared with an expected version, and this is the verdict. -/
inductive Compared (answer : Except InvocationError CommandOutput) : String → Verdict → Prop where
  | equal {o : CommandOutput} {expected : String} : answer = .ok o → o.status.isSuccess = true →
      reportedVersion o.merged = some expected.toList → Compared answer expected .passed
  | different {o : CommandOutput} {expected reported : String} : answer = .ok o →
      o.status.isSuccess = true → reportedVersion o.merged = some reported.toList →
      reported ≠ expected →
      Compared answer expected (.failed ("expected version " ++ expected ++ ", got " ++ reported))

/-- The check of the version: what is announced, and what is found. -/
structure VersionAgreement (b : Bench) (answer : Except InvocationError CommandOutput)
    (description : String) (v : Verdict) : Prop where
  compared : ∀ expected, Compared answer expected v → description = "-V must report " ++ expected
  passed : v = .passed → ∃ expected, Compared answer expected v
  /-- Even a message that only reads like a mismatch comes with the version that was asked for. -/
  announced : (v = .passed ∨ ∃ expected reported,
      v = .failed ("expected version " ++ expected ++ ", got " ++ reported)) →
    ∃ expected, b.expectedVersion = some expected ∧ description = "-V must report " ++ expected ∧
      v = versionVerdict b.program expected answer
  unskipped : ∀ reason, v ≠ .skipped reason
  unmarked : ∀ reason strict, v ≠ .xfailed reason ∧ v ≠ .xpassed reason strict

theorem present_ne_absent (reason : String) :
    "must be on PATH" ≠ "must be absent (" ++ reason ++ ")" := by
  intro h
  have hchars := congrArg String.toList h
  simp at hchars

theorem resurrectedText_ne (tool : String) (e : Snapshot) :
    resurrectedText tool e ≠ tool ++ " was not found on PATH" := by
  unfold resurrectedText
  simp only [String.append_assoc, ne_eq, String.append_right_inj]
  intro h
  have hchars := congrArg String.toList h
  simp at hchars

theorem existenceAgreement (tool : String) (x : Expectation) (b : Bench) (files : FileTree) :
    ExistenceAgreement tool b.environment (describeExistence x)
      (existenceVerdict tool x b files) := by
  have hne := resurrectedText_ne tool b.environment
  cases x with
  | mustExist =>
    have hv : existenceVerdict tool .mustExist b files = .passed ∨
        existenceVerdict tool .mustExist b files = .failed (tool ++ " was not found on PATH") := by
      cases hl : b.locate files tool <;> simp [existenceVerdict, hl]
    refine ⟨⟨fun _ => hv, fun _ => rfl⟩, fun reason h => absurd h (present_ne_absent reason),
      fun reason h => ?_, fun h => ?_, fun reason strict => ?_⟩
    · rcases hv with hv | hv <;> rw [hv] at h <;> cases h
    · rcases hv with hv | hv
      · rw [hv] at h
        cases h
      · rw [hv] at h
        exact absurd (Verdict.failed.inj h).symm hne
    · rcases hv with hv | hv <;> simp [hv]
  | mustBeAbsent reason issues =>
    have hv : existenceVerdict tool (.mustBeAbsent reason issues) b files = .skipped reason ∨
        existenceVerdict tool (.mustBeAbsent reason issues) b files =
          .failed (resurrectedText tool b.environment) := by
      cases hl : b.locate files tool <;> simp [existenceVerdict, hl]
    refine ⟨⟨fun h => absurd h.symm (present_ne_absent reason), fun h => ?_⟩, fun r h => ?_,
      fun r h => ?_, fun _ => ⟨reason, rfl⟩, fun r strict => ?_⟩
    · rcases hv with hv | hv <;> rw [hv] at h
      · simp at h
      · simp [hne] at h
    · change "must be absent (" ++ reason ++ ")" = "must be absent (" ++ r ++ ")" at h
      rw [String.append_left_inj, String.append_right_inj] at h
      rwa [← h]
    · rcases hv with hv | hv <;> rw [hv] at h <;> cases h
      rfl
    · rcases hv with hv | hv <;> simp [hv]

theorem plain_ne_marked (format reason : String) :
    "-T" ++ format ++ " must render" ≠
      "-T" ++ format ++ " must render (expected to fail: " ++ reason ++ ")" := by
  simp only [String.append_assoc, ne_eq, String.append_right_inj]
  intro h
  have hchars := congrArg String.toList h
  simp at hchars

theorem describeFormat_of_none {t : FormatTarget} {e : Snapshot}
    (h : ExpectedFailure.reasonIn t.xfail e = none) :
    describeFormat t e = "-T" ++ t.format ++ " must render" := by
  simp [describeFormat, h]

theorem describeFormat_of_some {t : FormatTarget} {e : Snapshot} {reason : String}
    (h : ExpectedFailure.reasonIn t.xfail e = some reason) :
    describeFormat t e = "-T" ++ t.format ++ " must render (expected to fail: " ++ reason ++ ")" := by
  have hjoin : " must render (expected to fail: " = " must render" ++ " (expected to fail: " := rfl
  simp only [describeFormat, h, hjoin, String.append_assoc]

theorem formatAgreement (t : FormatTarget) (b : Bench) (files : FileTree) :
    FormatAgreement t (describeFormat t b.environment) (runFormat t b files).verdict := by
  rw [verdict_runFormat]
  have hraw := (renderVerdict_cases t b.program (renderAnswer t b files)).imp And.right And.right
  generalize renderVerdict t b.program (renderAnswer t b files) = raw at hraw ⊢
  cases hr : ExpectedFailure.reasonIn t.xfail b.environment with
  | none =>
    rw [describeFormat_of_none hr]
    change FormatAgreement t _ raw
    refine ⟨⟨fun _ => hraw, fun _ => rfl⟩, fun reason => ⟨fun h => ?_, fun h => ?_⟩, fun reason => ?_⟩
    · exact absurd h (plain_ne_marked t.format reason)
    · rcases hraw with rfl | ⟨message, rfl⟩ <;> simp at h
    · rcases hraw with rfl | ⟨message, rfl⟩ <;> simp
  | some reason =>
    rw [describeFormat_of_some hr]
    have hv : raw.resolve (some reason) (isStrict t) = .xpassed reason (isStrict t) ∨
        raw.resolve (some reason) (isStrict t) = .xfailed reason := by
      rcases hraw with rfl | ⟨message, rfl⟩
      · exact .inl rfl
      · exact .inr rfl
    refine ⟨⟨fun h => ?_, fun h => ?_⟩, fun r => ⟨fun h => ?_, fun h => ?_⟩, fun r => ?_⟩
    · exact absurd h.symm (plain_ne_marked t.format reason)
    · rcases hv with hv | hv <;> simp [hv] at h
    · have hr : reason = r := by rwa [String.append_left_inj, String.append_right_inj] at h
      rw [← hr]
      rcases hv with hv | hv
      · exact .inr ⟨_, hv⟩
      · exact .inl hv
    · rcases hv with hv | hv <;> simp [hv] at h <;> rw [h]
    · rcases hv with hv | hv <;> simp [hv]

theorem versionVerdict_of_reported {o : CommandOutput} {reported : String} (program expected : String)
    (hs : o.status.isSuccess = true) (hr : reportedVersion o.merged = some reported.toList) :
    versionVerdict program expected (.ok o) =
      if reported = expected then .passed
      else .failed ("expected version " ++ expected ++ ", got " ++ reported) := by
  simp [versionVerdict, hs, hr, String.toList_inj]

theorem versionVerdict_cases (program expected : String)
    (result : Except InvocationError CommandOutput) :
    versionVerdict program expected result = .passed ∨
      ∃ message, versionVerdict program expected result = .failed message := by
  unfold versionVerdict
  split
  · exact .inr ⟨_, rfl⟩
  · dsimp only
    split
    · exact .inr ⟨_, rfl⟩
    · split
      · exact .inr ⟨_, rfl⟩
      · split
        · exact .inl rfl
        · exact .inr ⟨_, rfl⟩

/-- The run compares with the version that it is given. -/
theorem eq_of_compared {program version expected : String}
    {answer : Except InvocationError CommandOutput}
    (h : Compared answer expected (versionVerdict program version answer)) : expected = version := by
  generalize hv : versionVerdict program version answer = v at h
  cases h with
  | equal ho hs hr =>
    rw [ho, versionVerdict_of_reported program version hs hr] at hv
    split at hv
    · assumption
    · cases hv
  | different ho hs hr hne =>
    rw [ho, versionVerdict_of_reported program version hs hr] at hv
    split at hv
    · cases hv
    · have htext := Verdict.failed.inj hv
      rw [String.append_left_inj, String.append_left_inj, String.append_right_inj] at htext
      exact htext.symm

theorem unset_ne_mismatch (expected reported : String) :
    "GV_VERSION is not set and no expected version was given" ≠
      "expected version " ++ expected ++ ", got " ++ reported := by
  intro h
  have hchars := congrArg String.toList h
  simp at hchars

theorem versionAgreement (b : Bench) (files : FileTree) :
    VersionAgreement b (versionAnswer b files) (describeVersion b.expectedVersion)
      (runVersion b files).verdict := by
  cases hb : b.expectedVersion with
  | none =>
    have hv : (runVersion b files).verdict =
        .failed "GV_VERSION is not set and no expected version was given" := by
      simp only [runVersion, hb]
    rw [hv]
    refine ⟨fun expected h => ?_, fun h => ?_, fun h => ?_, fun reason => ?_, fun reason strict => ?_⟩
    · generalize hm : Verdict.failed _ = v at h
      cases h with
      | equal => cases hm
      | different _ _ _ _ => exact absurd (Verdict.failed.inj hm) (unset_ne_mismatch _ _)
    · cases h
    · rcases h with h | ⟨expected, reported, h⟩
      · cases h
      · exact absurd (Verdict.failed.inj h) (unset_ne_mismatch expected reported)
    · simp
    · simp
  | some version =>
    rw [verdict_runVersion_of_some hb]
    have hcases := versionVerdict_cases b.program version (versionAnswer b files)
    refine ⟨fun expected h => ?_, fun h => ?_, fun _ => ⟨version, hb, rfl, rfl⟩, fun reason => ?_,
      fun reason strict => ?_⟩
    · rw [eq_of_compared h]
      rfl
    · have hpass : (versionVerdict b.program version (versionAnswer b files)).isFailure = false := by
        rw [h]
        rfl
      obtain ⟨o, ho, hs, hr⟩ := (isFailure_versionVerdict _ _ _).1 hpass
      rw [h]
      exact ⟨version, .equal ho hs hr⟩
    · rcases hcases with hv | ⟨message, hv⟩ <;> simp [hv]
    · rcases hcases with hv | ⟨message, hv⟩ <;> simp [hv]

end SmokeSuite.Check
