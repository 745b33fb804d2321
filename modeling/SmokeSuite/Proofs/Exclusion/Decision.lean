import SmokeSuite.Expectation

namespace SmokeSuite.Expectation

/-- The first expectation, unless it leaves the decision to the second. -/
def orElse : Expectation → Expectation → Expectation
  | .mustExist, d => d
  | .mustBeAbsent reason issues, _ => .mustBeAbsent reason issues

@[simp]
theorem mustExist_orElse (d : Expectation) : mustExist.orElse d = d := rfl

@[simp]
theorem mustBeAbsent_orElse (reason : String) (issues : List UInt32) (d : Expectation) :
    (mustBeAbsent reason issues).orElse d = .mustBeAbsent reason issues := rfl

@[simp]
theorem orElse_mustExist (d : Expectation) : d.orElse .mustExist = d := by
  cases d <;> rfl

theorem concerns_iff {x : Exclusion} {tool : String} {e : Snapshot} :
    concerns x tool e = true ↔ tool ∈ x.tools ∧ x.condition.holdsIn e = true := by
  simp [concerns]

@[simp]
theorem decide_nil (tool : String) (e : Snapshot) : decide tool [] e = .mustExist := rfl

theorem decide_cons_of_concerns {x : Exclusion} {tool : String} {e : Snapshot}
    (h : concerns x tool e = true) (xs : List Exclusion) :
    decide tool (x :: xs) e = .mustBeAbsent (renderReason x.reason tool e) x.issues := by
  have hfind : (x :: xs).find? (concerns · tool e) = some x := List.find?_cons_of_pos h
  rw [decide, hfind]

theorem decide_cons_of_not_concerns {x : Exclusion} {tool : String} {e : Snapshot}
    (h : ¬ concerns x tool e = true) (xs : List Exclusion) :
    decide tool (x :: xs) e = decide tool xs e := by
  have hfind : (x :: xs).find? (concerns · tool e) = xs.find? (concerns · tool e) :=
    List.find?_cons_of_neg h
  rw [decide, hfind, decide]

theorem decide_singleton (tool : String) (x : Exclusion) (e : Snapshot) :
    decide tool [x] e =
      if concerns x tool e = true then .mustBeAbsent (renderReason x.reason tool e) x.issues
      else .mustExist := by
  split
  · next h => exact decide_cons_of_concerns h []
  · next h => exact decide_cons_of_not_concerns h []

theorem decide_append (tool : String) (xs ys : List Exclusion) (e : Snapshot) :
    decide tool (xs ++ ys) e = (decide tool xs e).orElse (decide tool ys e) := by
  induction xs with
  | nil => rfl
  | cons x xs ih =>
    rw [List.cons_append]
    by_cases h : concerns x tool e = true
    · rw [decide_cons_of_concerns h, decide_cons_of_concerns h, mustBeAbsent_orElse]
    · rw [decide_cons_of_not_concerns h, decide_cons_of_not_concerns h, ih]

theorem decide_cons (tool : String) (x : Exclusion) (xs : List Exclusion) (e : Snapshot) :
    decide tool (x :: xs) e = (decide tool [x] e).orElse (decide tool xs e) :=
  decide_append tool [x] xs e

/-- A tool must exist where nothing in the table speaks of it. -/
theorem decide_eq_mustExist_iff {tool : String} {xs : List Exclusion} {e : Snapshot} :
    decide tool xs e = .mustExist ↔ ∀ x ∈ xs, ¬ concerns x tool e = true := by
  induction xs with
  | nil => simp
  | cons x xs ih =>
    rw [List.forall_mem_cons]
    by_cases h : concerns x tool e = true
    · simp [decide_cons_of_concerns h, h]
    · rw [decide_cons_of_not_concerns h, ih]
      exact (and_iff_right h).symm

theorem exists_mustBeAbsent {tool : String} {xs : List Exclusion} {e : Snapshot} {x : Exclusion}
    (hx : x ∈ xs) (h : concerns x tool e = true) :
    ∃ reason issues, decide tool xs e = .mustBeAbsent reason issues := by
  cases hd : decide tool xs e with
  | mustExist => exact absurd h (decide_eq_mustExist_iff.1 hd x hx)
  | mustBeAbsent reason issues => exact ⟨reason, issues, rfl⟩

end SmokeSuite.Expectation
