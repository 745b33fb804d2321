import SmokeSuite.Report.Basic

namespace SmokeSuite

namespace Tally

theorem failed_foldl (vs : List Verdict) (t : Tally) :
    (vs.foldl count t).failed = t.failed + vs.countP Verdict.isFailure := by
  induction vs generalizing t with
  | nil => rfl
  | cons v vs ih =>
    rw [List.foldl_cons, ih, failed_count, List.countP_cons]
    omega

theorem failed_ofVerdicts (vs : List Verdict) :
    (ofVerdicts vs).failed = vs.countP Verdict.isFailure := by
  rw [ofVerdicts, failed_foldl]
  exact Nat.zero_add _

theorem isSuccess_ofVerdicts {vs : List Verdict} :
    (ofVerdicts vs).isSuccess = true ↔ ∀ v ∈ vs, v.isFailure = false := by
  rw [isSuccess, beq_iff_eq, failed_ofVerdicts, List.countP_eq_zero]
  simp only [Bool.not_eq_true]

end Tally

namespace Report

theorem exitCode_eq_zero_iff (r : Report) : r.exitCode = 0 ↔ r.tally.isSuccess = true := by
  unfold exitCode
  split <;> simp_all

theorem exitCode_eq_one_iff (r : Report) : r.exitCode = 1 ↔ r.exitCode ≠ 0 := by
  unfold exitCode
  split <;> simp

end Report

end SmokeSuite
