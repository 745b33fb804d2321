import SmokeSuite.Proofs.Glob.Matching
import SmokeSuite.Roster

namespace SmokeSuite.Roster

theorem select_nil (r : Roster) : r.select [] = (r, none) := rfl

theorem select_of_not_usable (r : Roster) {patterns : List String} (hne : patterns ≠ [])
    (h : ¬ ∀ p ∈ patterns, Glob.isUsable p = true) :
    ∃ cause, r.select patterns = (r, some (.badFilters cause)) := by
  cases hs : Glob.PatternSet.ofTexts patterns with
  | error cause => exact ⟨cause, by simp [select, hne, hs]⟩
  | ok globs => exact absurd (Glob.PatternSet.exists_ofTexts_iff.1 ⟨globs, hs⟩) h

theorem select_of_usable (r : Roster) {patterns : List String} (hne : patterns ≠ [])
    (h : ∀ p ∈ patterns, Glob.isUsable p = true) :
    r.select patterns =
      (r.filter fun c => patterns.any (Glob.accepts · c.id),
        if (r.filter fun c => patterns.any (Glob.accepts · c.id)).checks.isEmpty then
          some (.nothingSelected patterns) else none) := by
  obtain ⟨globs, hs⟩ := Glob.PatternSet.exists_ofTexts_iff.2 h
  have hmatch : (fun c : Check => globs.matchesText c.id) =
      fun c => patterns.any (Glob.accepts · c.id) :=
    funext fun c => Glob.PatternSet.matchesText_of_ofTexts hs c.id
  simp [select, hne, hs, hmatch]

/-- A selection drops a check only where there are patterns, all are usable, and none accepts it. -/
theorem checks_select (r : Roster) (patterns : List String) :
    (r.select patterns).1.checks = r.checks.filter fun c =>
      patterns.isEmpty || !patterns.all Glob.isUsable || patterns.any (Glob.accepts · c.id) := by
  by_cases hne : patterns = []
  · subst hne
    exact (List.filter_eq_self.2 fun _ _ => rfl).symm
  · have hempty : patterns.isEmpty = false := by simpa using hne
    by_cases hu : ∀ p ∈ patterns, Glob.isUsable p = true
    · rw [select_of_usable r hne hu, hempty, List.all_eq_true.2 hu]
      rfl
    · obtain ⟨cause, hs⟩ := select_of_not_usable r hne hu
      have hbad : patterns.all Glob.isUsable = false := by simpa using hu
      rw [hs, hempty, hbad]
      exact (List.filter_eq_self.2 fun _ _ => rfl).symm

/-- A selection that succeeds keeps what a pattern accepts, and everything where there is none. -/
theorem checks_select_of_succeeds {r : Roster} {patterns : List String}
    (h : (r.select patterns).2 = none) :
    (r.select patterns).1.checks =
      r.checks.filter fun c => patterns.isEmpty || patterns.any (Glob.accepts · c.id) := by
  rw [checks_select]
  cases patterns with
  | nil => rfl
  | cons p ps =>
    by_cases hu : ∀ q ∈ p :: ps, Glob.isUsable q = true
    · rw [List.all_eq_true.2 hu]
      rfl
    · obtain ⟨cause, hs⟩ := select_of_not_usable r (List.cons_ne_nil p ps) hu
      rw [hs] at h
      cases h

end SmokeSuite.Roster
