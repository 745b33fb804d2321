import SmokeSuite.Proofs.Tally.Counting
import Mathlib.Algebra.BigOperators.Group.List.Basic

namespace SmokeSuite.Tally

instance : Zero Tally := ⟨{}⟩

instance : Add Tally where
  add s t :=
    { passed := s.passed + t.passed
      failed := s.failed + t.failed
      skipped := s.skipped + t.skipped
      xfailed := s.xfailed + t.xfailed
      xpassed := s.xpassed + t.xpassed }

theorem add_eq (s t : Tally) :
    s + t = ⟨s.passed + t.passed, s.failed + t.failed, s.skipped + t.skipped,
      s.xfailed + t.xfailed, s.xpassed + t.xpassed⟩ := rfl

theorem zero_eq : (0 : Tally) = ⟨0, 0, 0, 0, 0⟩ := rfl

instance : AddCommMonoid Tally where
  add_assoc s t u := by simp only [add_eq, Nat.add_assoc]
  add_comm s t := by simp only [add_eq, Nat.add_comm]
  zero_add s := by simp only [add_eq, zero_eq, Nat.zero_add]
  add_zero s := by simp only [add_eq, zero_eq, Nat.add_zero]
  nsmul := nsmulRec

/-- What one verdict counts for. -/
def single (v : Verdict) : Tally := count 0 v

theorem count_eq_add (t : Tally) (v : Verdict) : t.count v = t + single v := by
  rcases v with _ | _ | _ | _ | ⟨_, _ | _⟩ <;> rfl

theorem foldl_count (vs : List Verdict) (t : Tally) :
    vs.foldl count t = t + (vs.map single).sum := by
  induction vs generalizing t with
  | nil => exact (add_zero t).symm
  | cons v vs ih =>
    rw [List.foldl_cons, ih, count_eq_add, List.map_cons, List.sum_cons]
    exact add_assoc t (single v) _

theorem ofVerdicts_eq_sum (vs : List Verdict) : ofVerdicts vs = (vs.map single).sum := by
  have h := foldl_count vs 0
  rw [zero_add] at h
  exact h

theorem ofVerdicts_append (vs ws : List Verdict) :
    ofVerdicts (vs ++ ws) = ofVerdicts vs + ofVerdicts ws := by
  simp only [ofVerdicts_eq_sum, List.map_append, List.sum_append]

theorem ofVerdicts_of_perm {vs ws : List Verdict} (h : vs.Perm ws) :
    ofVerdicts vs = ofVerdicts ws := by
  rw [ofVerdicts_eq_sum, ofVerdicts_eq_sum]
  exact (h.map single).sum_eq

theorem total_add (s t : Tally) : (s + t).total = s.total + t.total := by
  simp only [total, add_eq]
  omega

theorem total_single (v : Verdict) : (single v).total = 1 := total_count 0 v

theorem total_ofVerdicts (vs : List Verdict) : (ofVerdicts vs).total = vs.length := by
  induction vs with
  | nil => rfl
  | cons v vs ih =>
    have hsplit : ofVerdicts (v :: vs) = ofVerdicts [v] + ofVerdicts vs := ofVerdicts_append [v] vs
    have hone : (ofVerdicts [v]).total = 1 := total_single v
    rw [hsplit, total_add, hone, ih, List.length_cons]
    exact Nat.add_comm 1 vs.length

end SmokeSuite.Tally
