import SmokeSuite.Proofs.Tally.Addition

namespace SmokeSuite

/-- A verdict that looks at no marker, with the marker that may apply to it. -/
structure Marked where
  raw : Verdict
  isRaw : raw = .passed ∨ ∃ message, raw = .failed message
  marker : Option String
  strict : Bool

namespace Marked

def resolved (x : Marked) : Verdict := x.raw.resolve x.marker x.strict

/-- A marker applies to a failure. -/
def isForgiven (x : Marked) : Bool :=
  match x.raw, x.marker with
  | .failed _, some _ => true
  | _, _ => false

/-- A strict marker applies to a pass. -/
def isSuspicious (x : Marked) : Bool :=
  match x.raw, x.marker with
  | .passed, some _ => x.strict
  | _, _ => false

/-- What a marker does to the failure of one verdict. -/
theorem failure_resolved (x : Marked) :
    (x.raw.isFailure = true ∧ x.resolved.isFailure = false ↔ x.isForgiven = true) ∧
      (x.raw.isFailure = false ∧ x.resolved.isFailure = true ↔ x.isSuspicious = true) := by
  obtain ⟨raw, hraw, marker, strict⟩ := x
  rcases hraw with rfl | ⟨message, rfl⟩ <;> cases marker <;>
    simp [resolved, isForgiven, isSuspicious, Verdict.resolve, Verdict.isFailure]

/-- As a balance: a failure that is left or forgiven was found, or a marker has made it. -/
theorem balance_resolved (x : Marked) :
    (if x.resolved.isFailure then 1 else 0) + (if x.isForgiven then 1 else 0) =
      (if x.raw.isFailure then 1 else 0) + (if x.isSuspicious then 1 else 0) := by
  obtain ⟨hforgiven, hsuspicious⟩ := failure_resolved x
  simp only [← hforgiven, ← hsuspicious]
  cases x.raw.isFailure <;> cases x.resolved.isFailure <;> simp

theorem countP_failure_resolved (xs : List Marked) :
    (xs.map resolved).countP Verdict.isFailure + xs.countP isForgiven =
      (xs.map raw).countP Verdict.isFailure + xs.countP isSuspicious := by
  induction xs with
  | nil => rfl
  | cons x xs ih =>
    have hx := balance_resolved x
    rw [List.map_cons, List.map_cons, List.countP_cons, List.countP_cons, List.countP_cons,
      List.countP_cons]
    omega

end Marked

/-- The count of failures, the predicate and the exit code agree on every list of verdicts; counts add up,
whatever the order; and markers change the count of failures verdict by verdict. -/
theorem Tally.ofVerdicts_agrees_with_failures (vs : List Verdict) :
    (ofVerdicts vs).failed = vs.countP Verdict.isFailure ∧
    (ofVerdicts vs).total = vs.length ∧
    ((ofVerdicts vs).isSuccess = true ↔ ∀ v ∈ vs, v.isFailure = false) ∧
    (∀ (startedAt : Instant) (environment : Snapshot) (dot : String) (results : List CheckResult),
      results.map (·.verdict) = vs →
      ((Report.ofResults startedAt environment dot results).exitCode = 0 ↔
        ∀ v ∈ vs, v.isFailure = false)) ∧
    (∀ ws, ofVerdicts (vs ++ ws) = ofVerdicts vs + ofVerdicts ws) ∧
    (∀ ws, vs.Perm ws → ofVerdicts ws = ofVerdicts vs) ∧
    (∀ xs : List Marked, xs.map Marked.raw = vs →
      (ofVerdicts (xs.map Marked.resolved)).failed + xs.countP Marked.isForgiven =
        (ofVerdicts vs).failed + xs.countP Marked.isSuspicious) ∧
    ∀ x : Marked,
      (x.raw.isFailure = true ∧ x.resolved.isFailure = false ↔ x.isForgiven = true) ∧
        (x.raw.isFailure = false ∧ x.resolved.isFailure = true ↔ x.isSuspicious = true) := by
  refine ⟨failed_ofVerdicts vs, total_ofVerdicts vs, isSuccess_ofVerdicts, ?_, ofVerdicts_append vs,
    fun ws h => (ofVerdicts_of_perm h).symm, ?_, Marked.failure_resolved⟩
  · intro startedAt environment dot results hresults
    have htally : (Report.ofResults startedAt environment dot results).tally = ofVerdicts vs :=
      congrArg ofVerdicts hresults
    rw [Report.exitCode_eq_zero_iff, htally, isSuccess_ofVerdicts]
  · intro xs hxs
    rw [failed_ofVerdicts, failed_ofVerdicts, ← hxs]
    exact Marked.countP_failure_resolved xs

end SmokeSuite
