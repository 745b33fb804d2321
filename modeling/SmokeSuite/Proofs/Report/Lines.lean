import SmokeSuite.Proofs.Check.OneLine
import SmokeSuite.Proofs.Roster.Run
import SmokeSuite.Proofs.Suite.Ids
import SmokeSuite.Proofs.Tally.Listing
import SmokeSuite.Report.Human

namespace SmokeSuite

open Text (IsOneLine)

namespace Report

/-- A text with a line for the environment, a line for each result that begins with its label and its name,
and a line for the tally. -/
def HasLinePerResult (results : List CheckResult) (text : String) : Prop :=
  ∃ (header : String) (entries : List String) (summary : String),
    text = Text.unlines (header :: entries ++ [summary]) ∧
    (∀ line ∈ header :: entries ++ [summary], IsOneLine line) ∧
    List.Forall₂ (fun c line => ∃ rest, line = padded 7 c.verdict.label ++ " " ++ c.id ++ rest)
      results entries

theorem toHuman_eq_unlines (r : Report) :
    r.toHuman false = Text.unlines
      (r.headerLine false :: r.results.map (resultLine false) ++ [r.tallyLine false]) := rfl

theorem isOneLine_headerLine_iff {r : Report} : IsOneLine (r.headerLine false) ↔
    IsOneLine r.environment.osIdText ∧ IsOneLine r.environment.buildSystemText := by
  have hsystem : IsOneLine r.environment.system.name := by cases r.environment.system <;> decide
  have hasan : IsOneLine (if r.environment.asan then " asan" else "") := by split <;> decide
  simp +decide only [headerLine, inStyle, Text.isOneLine_append, hsystem, hasan, true_and, and_true]

theorem isOneLine_resultLine_iff {c : CheckResult} :
    IsOneLine (resultLine false c) ↔ IsOneLine c.id ∧ c.verdict.OnOneLine := by
  have hlabel : IsOneLine (padded labelWidth c.verdict.label) := by
    cases c.verdict <;> simp only [Verdict.label] <;> decide
  cases hdetail : c.verdict.detail with
  | none => simp +decide [resultLine, inStyle, Verdict.OnOneLine, Text.isOneLine_append, hdetail, hlabel]
  | some detail =>
    simp +decide [resultLine, inStyle, Verdict.OnOneLine, Text.isOneLine_append, hdetail, hlabel]

theorem isOneLine_toText (t : Tally) : IsOneLine t.toText := by
  intro h
  exact absurd (Tally.mem_toText h) (by decide)

theorem isOneLine_tallyLine (r : Report) : IsOneLine (r.tallyLine false) := by
  simp only [tallyLine, inStyle, Bool.false_eq_true, if_false, Text.isOneLine_append, and_assoc]
  exact ⟨by decide, by decide, isOneLine_toText r.tally⟩

theorem forall₂_resultLine (results : List CheckResult) :
    List.Forall₂ (fun c line => ∃ rest, line = padded 7 c.verdict.label ++ " " ++ c.id ++ rest)
      results (results.map (resultLine false)) := by
  rw [List.forall₂_map_right_iff, List.forall₂_same]
  exact fun c _ => ⟨_, rfl⟩

/-- Line feeds can be counted: a reading of the report as lines has as many as pieces were written, so
there is one only if each of these pieces is a line. -/
theorem hasLinePerResult_toHuman_iff {r : Report} :
    HasLinePerResult r.results (r.toHuman false) ↔
      IsOneLine r.environment.osIdText ∧ IsOneLine r.environment.buildSystemText ∧
      ∀ c ∈ r.results, IsOneLine c.id ∧ c.verdict.OnOneLine := by
  have hlines : (∀ line ∈ r.headerLine false :: r.results.map (resultLine false) ++ [r.tallyLine false],
      IsOneLine line) ↔ (IsOneLine r.environment.osIdText ∧ IsOneLine r.environment.buildSystemText) ∧
      ∀ c ∈ r.results, IsOneLine c.id ∧ c.verdict.OnOneLine := by
    rw [List.forall_mem_append, List.forall_mem_cons, List.forall_mem_map, List.forall_mem_singleton,
      isOneLine_headerLine_iff]
    simp only [isOneLine_resultLine_iff, isOneLine_tallyLine, and_true]
  rw [← and_assoc, ← hlines]
  constructor
  · rintro ⟨header, entries, summary, htext, hall, hentries⟩
    refine Text.isOneLine_of_unlines_eq (r.toHuman_eq_unlines.symm.trans htext) ?_ hall
    simp [hentries.length_eq]
  · intro hall
    exact ⟨r.headerLine false, r.results.map (resultLine false), r.tallyLine false,
      r.toHuman_eq_unlines, hall, forall₂_resultLine r.results⟩

end Report

namespace Roster

theorem exists_of_mem_results {b : Bench} {cs : List Check} {files : FileTree} {x : CheckResult}
    (h : x ∈ (results b cs files).1) :
    ∃ c ∈ cs, ∃ found : FileTree, x.verdict = (c.run b found).verdict := by
  obtain ⟨i, hi⟩ := List.mem_iff_getElem?.1 h
  rw [getElem?_results, Option.map_eq_some_iff] at hi
  obtain ⟨c, hc, rfl⟩ := hi
  exact ⟨c, List.mem_of_getElem? hc, _, rfl⟩

theorem onOneLine_run_of_mem_ofSuite {s : Suite} {b : Bench} (hs : s.OnOneLine) (hb : b.OnOneLine) :
    ∀ c ∈ (ofSuite s b.environment).checks, ∀ files, (c.run b files).verdict.OnOneLine := by
  rw [forall_mem_ofSuite]
  refine ⟨fun tool htool files => ?_, fun t ht files => ?_, fun files => ?_⟩
  · exact Check.onOneLine_existence hb (hs.tools tool htool) hs.exclusions files
  · exact Check.onOneLine_format hb (hs.formats t ht) (hs.markers t ht) files
  · exact Check.onOneLine_version hb files

theorem isOneLine_checkIds_iff {s : Suite} : (∀ id ∈ s.checkIds, IsOneLine id) ↔
    (∀ tool ∈ s.tools, IsOneLine tool) ∧ ∀ t ∈ s.formats, IsOneLine t.format := by
  simp +decide only [Suite.checkIds, List.forall_mem_append, List.forall_mem_map, Text.isOneLine_append,
    true_and, and_true]

/-- The report of a run has one line for each check exactly if no text that it passes on holds a line feed;
and so it has where the suite, the environment and a layout binary that fails keep to one line. -/
theorem hasLinePerResult_run_ofSuite (s : Suite) (b : Bench) (startedAt : Instant) (files : FileTree) :
    let r := ((ofSuite s b.environment).run b startedAt files).1
    (Report.HasLinePerResult r.results (r.toHuman false) ↔
      IsOneLine b.environment.osIdText ∧ IsOneLine b.environment.buildSystemText ∧
      (∀ tool ∈ s.tools, IsOneLine tool) ∧ (∀ t ∈ s.formats, IsOneLine t.format) ∧
      ∀ c ∈ r.results, ∀ detail, c.verdict.detail = some detail → IsOneLine detail) ∧
    (s.OnOneLine → b.OnOneLine → Report.HasLinePerResult r.results (r.toHuman false)) := by
  intro r
  have hnames : (∀ c ∈ r.results, IsOneLine c.id) ↔
      (∀ tool ∈ s.tools, IsOneLine tool) ∧ ∀ t ∈ s.formats, IsOneLine t.format := by
    have hids : r.results.map (·.id) = s.checkIds :=
      (map_id_results b _ files).trans (ids_ofSuite s b.environment)
    rw [← isOneLine_checkIds_iff, ← hids, List.forall_mem_map]
  have hiff : Report.HasLinePerResult r.results (r.toHuman false) ↔
      IsOneLine b.environment.osIdText ∧ IsOneLine b.environment.buildSystemText ∧
      (∀ tool ∈ s.tools, IsOneLine tool) ∧ (∀ t ∈ s.formats, IsOneLine t.format) ∧
      ∀ c ∈ r.results, c.verdict.OnOneLine := by
    rw [Report.hasLinePerResult_toHuman_iff, forall₂_and, hnames, and_assoc]
    rfl
  refine ⟨hiff, fun hs hb => hiff.2 ⟨hb.osId, hb.buildSystem, hs.tools, hs.formats, ?_⟩⟩
  intro x hx
  obtain ⟨c, hc, found, hverdict⟩ := exists_of_mem_results hx
  rw [hverdict]
  exact onOneLine_run_of_mem_ofSuite hs hb c hc found

/-- A layout binary that fails with a message of two lines puts a line into the report that is no check's. -/
theorem run_splits_a_line :
    let s : Suite := { tools := ["dot"], formats := [{ format := "svg" }] }
    let b := Bench.ofAnswers { version := some "2.49.0" } "./dot" none (fun _ => some "/bin/dot")
      fun arguments _ => .ok <|
        if arguments = ["-V"] then
          ⟨.exited 0, [], Text.Utf8.encode "dot - graphviz version 2.49.0 (20210828.1703)\n".toList⟩
        else ⟨.exited 1, [], Text.Utf8.encode "Warning: no plugins\nError: no renderer\n".toList⟩
    let r := ((ofSuite s b.environment).run b ⟨0, 0⟩ {}).1
    Suite.ofYaml "tools: [dot]\nformats:\n- format: svg\n" = .ok s ∧
      ¬ Report.HasLinePerResult r.results (r.toHuman false) := by
  intro s b r
  refine ⟨Suite.ofYaml_eq_ok_of_toOption (by decide +kernel), fun h => ?_⟩
  have hfound : r.results[1]? = some ⟨"format::svg",
      .failed "./dot -Tsvg exited with 1: Warning: no plugins\nError: no renderer", 0⟩ := by
    decide +kernel
  obtain ⟨-, -, hall⟩ := Report.hasLinePerResult_toHuman_iff.1 h
  exact absurd ((hall _ (List.mem_of_getElem? hfound)).2 _ rfl) (by decide +kernel)

end Roster

end SmokeSuite
