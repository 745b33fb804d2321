import SmokeSuite.Proofs.Exclusion.Decision
import SmokeSuite.Proofs.Suite.Ids

namespace SmokeSuite

/-- An exclusion that does not name the tools any more. -/
def Exclusion.without (names : List String) (x : Exclusion) : Exclusion :=
  { x with tools := x.tools.filter (!names.contains ·) }

/-- A suite whose exclusions do not name the tools any more; one that names no tool is dropped. -/
def Suite.without (s : Suite) (names : List String) : Suite :=
  { s with exclusions := (s.exclusions.map (·.without names)).filter (!·.tools.isEmpty) }

variable {names : List String} {tool : String}

theorem Exclusion.mem_tools_without {x : Exclusion} :
    tool ∈ (x.without names).tools ↔ tool ∈ x.tools ∧ tool ∉ names := by
  simp [without]

namespace Expectation

theorem decide_without_singleton (h : tool ∉ names) (x : Exclusion) (e : Snapshot) :
    decide tool [x.without names] e = decide tool [x] e := by
  simp only [decide_singleton, concerns_iff, Exclusion.mem_tools_without, h, not_false_eq_true, and_true]
  rfl

theorem decide_dropped {x : Exclusion} (h : x.tools = []) (e : Snapshot) :
    decide tool [x] e = .mustExist := by
  refine decide_cons_of_not_concerns (fun hx => ?_) []
  rw [concerns_iff, h] at hx
  exact List.not_mem_nil hx.1

theorem decide_without (h : tool ∉ names) (s : Suite) (e : Snapshot) :
    decide tool (s.without names).exclusions e = decide tool s.exclusions e := by
  rw [Suite.without]
  dsimp only
  induction s.exclusions with
  | nil => rfl
  | cons x xs ih =>
    rw [decide_cons tool x xs, ← decide_without_singleton h, ← ih, List.map_cons, List.filter_cons]
    by_cases hx : (x.without names).tools = []
    · have hdropped : ¬ (!(x.without names).tools.isEmpty) = true := by simp [hx]
      rw [if_neg hdropped, decide_dropped hx, mustExist_orElse]
    · have hkept : (!(x.without names).tools.isEmpty) = true := by simpa using hx
      rw [if_pos hkept, decide_cons tool (x.without names)]

end Expectation

namespace Roster

theorem ofSuite_without (s : Suite) (e : Snapshot) (h : ∀ tool ∈ s.tools, tool ∉ names) :
    ofSuite (s.without names) e = ofSuite s e := by
  have hexistence : (s.without names).tools.map (Check.existence · (s.without names).exclusions e) =
      s.tools.map (Check.existence · s.exclusions e) := by
    refine List.map_congr_left fun tool ht => ?_
    rw [Check.existence, Expectation.decide_without (h tool ht), Check.existence]
  rw [ofSuite, hexistence]
  rfl

/-- The check that bears the name of a tool's existence is the one of that tool. -/
theorem eq_existence_of_id {s : Suite} {e : Snapshot} :
    ∀ c ∈ (ofSuite s e).checks, c.id = "existence::" ++ tool → c = Check.existence tool s.exclusions e := by
  rw [forall_mem_ofSuite]
  refine ⟨fun t _ hid => ?_, fun t _ hid => ?_, fun hid => ?_⟩
  · rw [(String.append_right_inj "existence::").1 hid]
  · have hhead := congrArg (·.toList.head?) hid
    simp [Check.format] at hhead
  · have hhead := congrArg (·.toList.head?) hid
    simp [Check.version] at hhead

end Roster

namespace Suite

/-- The review of a suite that is accepted logs the names of its exclusions that are none of its tools. -/
theorem review_of_valid {s : Suite} (h : s.validate = .ok ()) :
    s.review = .ok (s.unusedNames.map (⟨unusedNameMessage, ·⟩)) ∧
      s.unusedNames = (s.exclusions.flatMap (·.tools)).filter (· ∉ s.tools) := by
  have hformed := validate_eq_ok_iff.1 h
  obtain ⟨warnings, hreview⟩ : ∃ warnings, s.review = .ok warnings := by
    rw [validate] at h
    cases hr : s.review with
    | error cause => simp [hr, Except.map] at h
    | ok warnings => exact ⟨warnings, rfl⟩
  obtain ⟨-, -, -, hwarnings⟩ := review_eq_ok_iff.1 hreview
  have hnames : s.unusedNames = s.exclusions.flatMap fun x => x.tools.filter (!s.tools.contains ·) := by
    simp [unusedNames, hreview, ← hwarnings, Except.toOption, List.map_flatMap, Function.comp_def]
  refine ⟨?_, ?_⟩
  · rw [hreview, hnames, List.map_flatMap, hwarnings]
  · rw [hnames, List.filter_flatMap]
    simp

theorem mem_unusedNames {s : Suite} (h : s.validate = .ok ()) {name : String} :
    name ∈ s.unusedNames ↔ (∃ x ∈ s.exclusions, name ∈ x.tools) ∧ name ∉ s.tools := by
  rw [(review_of_valid h).2, List.mem_filter, List.mem_flatMap, decide_eq_true_eq]

theorem mem_exclusions_without {s : Suite} {y : Exclusion} :
    y ∈ (s.without names).exclusions ↔ ∃ x ∈ s.exclusions, x.without names = y ∧ y.tools ≠ [] := by
  simp only [without, List.mem_filter, List.mem_map, Bool.not_eq_true', List.isEmpty_eq_false_iff]
  constructor
  · rintro ⟨⟨x, hx, rfl⟩, hy⟩
    exact ⟨x, hx, rfl, hy⟩
  · rintro ⟨x, hx, rfl, hy⟩
    exact ⟨⟨x, hx, rfl⟩, hy⟩

/-- No exclusion is left without tools, so deleting names does no harm to a suite. -/
theorem IsWellFormed.without {s : Suite} (h : s.IsWellFormed) (names : List String) :
    (s.without names).IsWellFormed := by
  refine ⟨h.tools, h.dot, fun y hy => ?_, h.formats, h.distinctTools, h.distinctFormats⟩
  obtain ⟨x, hx, rfl, htools⟩ := mem_exclusions_without.1 hy
  exact ⟨htools, (h.exclusions x hx).2⟩

theorem validate_without {s : Suite} (h : s.validate = .ok ()) (names : List String) :
    (s.without names).validate = .ok () :=
  validate_eq_ok_iff.2 ((validate_eq_ok_iff.1 h).without names)

theorem unusedNames_without {s : Suite} (hs : s.validate = .ok ()) :
    (s.without s.unusedNames).unusedNames = [] := by
  refine List.eq_nil_iff_forall_not_mem.2 fun name h => ?_
  obtain ⟨⟨y, hy, hname⟩, hno⟩ := (mem_unusedNames (validate_without hs _)).1 h
  obtain ⟨x, hx, rfl, -⟩ := mem_exclusions_without.1 hy
  obtain ⟨hname, hused⟩ := Exclusion.mem_tools_without.1 hname
  exact hused ((mem_unusedNames hs).2 ⟨⟨x, hx, hname⟩, hno⟩)

/-- What a suite is warned about are the names in its exclusions that are none of its tools, as they come.
These names are dead: without them the suite is accepted, warned about nothing, and has the same checks in
every environment. And a name that it is not warned about is live: the tool is checked, and must be absent
wherever an exclusion that names it applies. -/
theorem unusedNames_are_the_dead_ones {s : Suite} (h : s.validate = .ok ()) :
    s.review = .ok (s.unusedNames.map (⟨unusedNameMessage, ·⟩)) ∧
    s.unusedNames = (s.exclusions.flatMap (·.tools)).filter (· ∉ s.tools) ∧
    (s.without s.unusedNames).validate = .ok () ∧ (s.without s.unusedNames).unusedNames = [] ∧
    (∀ e, Roster.ofSuite (s.without s.unusedNames) e = Roster.ofSuite s e) ∧
    ∀ x ∈ s.exclusions, ∀ name ∈ x.tools, name ∉ s.unusedNames → ∀ e,
      "existence::" ++ name ∈ (Roster.ofSuite s e).ids ∧
      (x.condition.holdsIn e = true → ∀ c ∈ (Roster.ofSuite s e).checks, c.id = "existence::" ++ name →
        ∃ reason issues, c.subject = .existence (.mustBeAbsent reason issues)) := by
  refine ⟨(review_of_valid h).1, (review_of_valid h).2, validate_without h _, unusedNames_without h,
    fun e => ?_, fun x hx name hname hused e => ⟨?_, ?_⟩⟩
  · exact Roster.ofSuite_without s e fun tool ht hunused => ((mem_unusedNames h).1 hunused).2 ht
  · have htool : name ∈ s.tools := by
      by_contra hno
      exact hused ((mem_unusedNames h).2 ⟨⟨x, hx, hname⟩, hno⟩)
    rw [Roster.ids_ofSuite, checkIds]
    simp [htool]
  · intro hcondition c hc hid
    have hconcerns : Expectation.concerns x name e = true := Expectation.concerns_iff.2 ⟨hname, hcondition⟩
    obtain ⟨reason, issues, hd⟩ := Expectation.exists_mustBeAbsent hx hconcerns
    refine ⟨reason, issues, ?_⟩
    rw [Roster.eq_existence_of_id c hc hid, Check.existence, hd]

/-- One exclusion names only a tool that is not checked, and another one such a tool twice. -/
theorem unusedNames_are_the_dead_ones_of_typo :
    let s : Suite :=
      { tools := ["dot", "mingle"]
        exclusions :=
          [{ tools := ["smyrna"], reason := "no GTK" },
            { tools := ["mingel", "mingle", "mingel"], reason := "no ANN"
              condition := { osId := some "ubuntu" } }] }
    s.validate = .ok () ∧ s.unusedNames = ["smyrna", "mingel", "mingel"] ∧
      (s.without s.unusedNames).exclusions =
        [{ tools := ["mingle"], reason := "no ANN", condition := { osId := some "ubuntu" } }] ∧
      (∀ e, Roster.ofSuite (s.without s.unusedNames) e = Roster.ofSuite s e) ∧
      ∀ c ∈ (Roster.ofSuite s { osId := some "ubuntu" }).checks, c.id = "existence::mingle" →
        ∃ reason issues, c.subject = .existence (.mustBeAbsent reason issues) := by
  intro s
  have hs : s.validate = .ok () := by decide +kernel
  obtain ⟨-, -, -, -, hdead, hlive⟩ := unusedNames_are_the_dead_ones hs
  have hmingle := hlive { tools := ["mingel", "mingle", "mingel"], reason := "no ANN"
                          condition := { osId := some "ubuntu" } }
    (by decide) "mingle" (by decide) (by decide) { osId := some "ubuntu" }
  exact ⟨hs, by decide, by decide, hdead, hmingle.2 (by decide)⟩

end Suite

end SmokeSuite
