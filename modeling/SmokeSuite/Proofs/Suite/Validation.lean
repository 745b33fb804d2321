import SmokeSuite.Suite.Validation

namespace SmokeSuite.Suite

theorem check_eq_nil_iff {isEmpty : Bool} {p : Part} : check isEmpty p = [] ↔ isEmpty = false := by
  cases isEmpty <;> simp [check]

theorem emptyInExclusions_eq_nil_iff {i : Nat} {xs : List Exclusion} :
    emptyInExclusions i xs = [] ↔ ∀ x ∈ xs, x.tools ≠ [] ∧ x.reason ≠ "" := by
  induction xs generalizing i with
  | nil => simp [emptyInExclusions]
  | cons x xs ih => simp [emptyInExclusions, check_eq_nil_iff, ih, and_assoc]

theorem emptyInFormats_eq_nil_iff {i : Nat} {ts : List FormatTarget} :
    emptyInFormats i ts = [] ↔ ∀ t ∈ ts, t.format ≠ "" ∧ t.source ≠ "" := by
  induction ts generalizing i with
  | nil => simp [emptyInFormats]
  | cons t ts ih => simp [emptyInFormats, check_eq_nil_iff, ih, and_assoc]

theorem gather_eq_ok_iff {repeated : String → Invalid} {seen names all : List String} :
    gather repeated seen names = .ok all ↔
      (names.Nodup ∧ ∀ n ∈ names, n ∉ seen) ∧ names.reverse ++ seen = all := by
  induction names generalizing seen with
  | nil => simp [gather]
  | cons n ns ih =>
    rw [gather, List.nodup_cons, List.forall_mem_cons]
    by_cases hn : n ∈ seen
    · simp [hn]
    · rw [if_neg (by simpa using hn), ih]
      simp only [List.mem_cons, not_or, List.reverse_cons, List.append_assoc, List.singleton_append]
      constructor
      · rintro ⟨⟨hnodup, hs⟩, hall⟩
        exact ⟨⟨⟨fun h => (hs n h).1 rfl, hnodup⟩, hn, fun m hm => (hs m hm).2⟩, hall⟩
      · rintro ⟨⟨⟨hnew, hnodup⟩, -, hs⟩, hall⟩
        exact ⟨⟨hnodup, fun m hm => ⟨fun h => hnew (h ▸ hm), hs m hm⟩⟩, hall⟩

theorem exists_gather_iff {repeated : String → Invalid} {names : List String} :
    (∃ all, gather repeated [] names = .ok all) ↔ names.Nodup := by
  simp [gather_eq_ok_iff]

/-- A suite is well formed where nothing is empty that has a name or gives one, and no tool and no format
stands in it twice. -/
structure IsWellFormed (s : Suite) : Prop where
  tools : s.tools ≠ []
  dot : s.dot ≠ ""
  exclusions : ∀ x ∈ s.exclusions, x.tools ≠ [] ∧ x.reason ≠ ""
  formats : ∀ t ∈ s.formats, t.format ≠ "" ∧ t.source ≠ ""
  distinctTools : s.tools.Nodup
  distinctFormats : (s.formats.map (·.format)).Nodup

/-- What a suite that is accepted is warned about. -/
theorem review_eq_ok_iff {s : Suite} {warnings : List Warning} :
    s.review = .ok warnings ↔ s.emptyParts = [] ∧ s.tools.Nodup ∧ (s.formats.map (·.format)).Nodup ∧
      s.exclusions.flatMap (fun x =>
        (x.tools.filter (!s.tools.contains ·)).map (⟨unusedNameMessage, ·⟩)) = warnings := by
  rw [← @exists_gather_iff .repeatedFormat (s.formats.map (·.format))]
  unfold review
  by_cases he : s.emptyParts = []
  · cases ht : gather .repeatedTool [] s.tools with
    | error n =>
      have hrepeated : ¬ s.tools.Nodup := fun h => by
        obtain ⟨all, hall⟩ := exists_gather_iff.2 h
        rw [ht] at hall
        cases hall
      simp [he, hrepeated, bind, Except.bind]
    | ok seen =>
      obtain ⟨⟨hnodup, -⟩, rfl⟩ := gather_eq_ok_iff.1 ht
      cases gather .repeatedFormat [] (s.formats.map (·.format)) <;>
        simp [he, hnodup, bind, Except.bind, pure, Except.pure]
  · simp [he, throw, throwThe, MonadExceptOf.throw, bind, Except.bind]

theorem validate_eq_ok_iff {s : Suite} : s.validate = .ok () ↔ s.IsWellFormed := by
  have hparts : s.emptyParts = [] ↔ s.tools ≠ [] ∧ s.dot ≠ "" ∧
      (∀ x ∈ s.exclusions, x.tools ≠ [] ∧ x.reason ≠ "") ∧
      ∀ t ∈ s.formats, t.format ≠ "" ∧ t.source ≠ "" := by
    simp [emptyParts, check_eq_nil_iff, emptyInExclusions_eq_nil_iff, emptyInFormats_eq_nil_iff]
  have hvalid : s.validate = .ok () ↔ ∃ warnings, s.review = .ok warnings := by
    rw [validate]
    cases s.review <;> simp [Except.map]
  simp only [hvalid, review_eq_ok_iff, hparts]
  constructor
  · rintro ⟨-, ⟨ht, hd, hx, hf⟩, hdt, hdf, -⟩
    exact ⟨ht, hd, hx, hf, hdt, hdf⟩
  · rintro ⟨ht, hd, hx, hf, hdt, hdf⟩
    exact ⟨_, ⟨ht, hd, hx, hf⟩, hdt, hdf, rfl⟩

end SmokeSuite.Suite
