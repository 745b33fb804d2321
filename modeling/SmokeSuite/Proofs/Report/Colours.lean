import SmokeSuite.Proofs.Tally.Counting
import SmokeSuite.Proofs.Tally.Listing
import SmokeSuite.Proofs.Terminal.Painting
import SmokeSuite.Proofs.Text.OneLine
import SmokeSuite.Report.Human

namespace SmokeSuite

open Terminal
open Phase (escapeMark)

theorem Verdict.colour_eq_red_iff (v : Verdict) : v.colour = .red ↔ v.isFailure = true := by
  rcases v with _ | _ | _ | _ | ⟨_, _ | _⟩ <;> simp [colour, isFailure]

namespace Report

/-- The texts from outside that a report passes on hold no escape character. -/
structure HasNoEscape (r : Report) : Prop where
  osId : ∀ s ∈ r.environment.osId, escapeMark ∉ s.toList
  buildSystem : ∀ s ∈ r.environment.buildSystem, escapeMark ∉ s.toList
  ids : ∀ c ∈ r.results, escapeMark ∉ c.id.toList
  details : ∀ c ∈ r.results, ∀ detail ∈ c.verdict.detail, escapeMark ∉ detail.toList

def tallyStyle (r : Report) : Style :=
  { bold := true, colour := some (if r.tally.isSuccess then .green else .red) }

def verdictStyle (v : Verdict) : Style := { colour := some v.colour }

/-- What stands in the first line behind the name of the program. -/
def headerRest (r : Report) : String :=
  " os=" ++ r.environment.osIdText ++ " build_system=" ++ r.environment.buildSystemText ++
    " system=" ++ r.environment.system.name ++ (if r.environment.asan then " asan" else "")

/-- What stands in the line of a result behind its name. -/
def resultRest (c : CheckResult) : String :=
  match c.verdict.detail with
  | some detail => " - " ++ detail
  | none => ""

def headerSpans (r : Report) : List Span :=
  [{ style := some { bold := true }, text := "gvsmoke" }, { text := r.headerRest ++ "\n" }]

def resultSpans (c : CheckResult) : List Span :=
  [{ style := some (verdictStyle c.verdict), text := padded labelWidth c.verdict.label },
    { text := " " ++ c.id ++ resultRest c ++ "\n" }]

def tallySpans (r : Report) : List Span :=
  [{ style := some { dimmed := true }, text := "=====" }, { text := " " },
    { style := some r.tallyStyle, text := r.tally.toText }, { text := "\n" }]

def spans (r : Report) : List Span :=
  r.headerSpans ++ r.results.flatMap resultSpans ++ r.tallySpans

theorem headerLine_eq (r : Report) (colours : Bool) :
    r.headerLine colours = inStyle colours { bold := true } "gvsmoke" ++ r.headerRest := by
  simp only [headerLine, headerRest, String.append_assoc]

theorem write_header (r : Report) (colours : Bool) :
    String.join (r.headerSpans.map (Span.write colours)) = r.headerLine colours ++ "\n" := by
  simp [headerSpans, Span.write, headerLine_eq, inStyle, String.append_assoc]

theorem resultLine_eq (c : CheckResult) (colours : Bool) :
    resultLine colours c = inStyle colours (verdictStyle c.verdict) (padded labelWidth c.verdict.label) ++
      " " ++ c.id ++ resultRest c := rfl

theorem write_result (c : CheckResult) (colours : Bool) :
    String.join ((resultSpans c).map (Span.write colours)) = resultLine colours c ++ "\n" := by
  simp [resultSpans, Span.write, resultLine_eq, inStyle, String.append_assoc]

theorem write_tally (r : Report) (colours : Bool) :
    String.join (r.tallySpans.map (Span.write colours)) = r.tallyLine colours ++ "\n" := by
  simp [tallySpans, tallyStyle, Span.write, tallyLine, inStyle, String.append_assoc]

/-- With colours and without them, a report is written span by span. -/
theorem toHuman_eq_join (r : Report) (colours : Bool) :
    r.toHuman colours = String.join (r.spans.map (Span.write colours)) := by
  have hresults : String.join ((r.results.flatMap resultSpans).map (Span.write colours)) =
      String.join (r.results.map fun c => resultLine colours c ++ "\n") := by
    induction r.results with
    | nil => rfl
    | cons c cs ih =>
      rw [List.flatMap_cons, List.map_append, String.join_append, write_result, ih, List.map_cons,
        String.join_cons]
  rw [spans, List.map_append, List.map_append, String.join_append, String.join_append, write_header,
    hresults, write_tally, toHuman]
  simp [String.join_append, String.append_assoc, Function.comp_def]

theorem escape_notMem_getD {o : Option String} (h : ∀ s ∈ o, escapeMark ∉ s.toList) {default : String}
    (hdefault : escapeMark ∉ default.toList) : escapeMark ∉ (o.getD default).toList := by
  cases o with
  | none => exact hdefault
  | some s => exact h s rfl

theorem escape_notMem_headerRest {r : Report} (h : r.HasNoEscape) :
    escapeMark ∉ (r.headerRest ++ "\n").toList := by
  have hos : escapeMark ∉ r.environment.osIdText.toList := escape_notMem_getD h.osId (by decide)
  have hbuild : escapeMark ∉ r.environment.buildSystemText.toList :=
    escape_notMem_getD h.buildSystem (by decide)
  have hsystem : escapeMark ∉ r.environment.system.name.toList := by
    cases r.environment.system <;> decide
  have hasan : escapeMark ∉ (if r.environment.asan then " asan" else "").toList := by split <;> decide
  simp only [headerRest, Text.notMem_append, and_assoc]
  exact ⟨by decide, hos, by decide, hbuild, by decide, hsystem, hasan, by decide⟩

theorem escape_notMem_resultRest {c : CheckResult} (hid : escapeMark ∉ c.id.toList)
    (hdetail : ∀ detail ∈ c.verdict.detail, escapeMark ∉ detail.toList) :
    escapeMark ∉ (" " ++ c.id ++ resultRest c ++ "\n").toList := by
  have hrest : escapeMark ∉ (resultRest c).toList := by
    unfold resultRest
    cases h : c.verdict.detail with
    | none => decide
    | some detail => exact Text.notMem_append.2 ⟨by decide, hdetail detail h⟩
  simp only [Text.notMem_append, and_assoc]
  exact ⟨by decide, hid, hrest, by decide⟩

theorem tame_header {r : Report} (h : r.HasNoEscape) : ∀ s ∈ r.headerSpans, s.IsTame := by
  simp only [headerSpans, List.forall_mem_cons]
  refine ⟨.styled ?_ ?_ ?_, .plain (escape_notMem_headerRest h), nofun⟩ <;> decide

theorem tame_result {c : CheckResult} (hid : escapeMark ∉ c.id.toList)
    (hdetail : ∀ detail ∈ c.verdict.detail, escapeMark ∉ detail.toList) :
    ∀ s ∈ resultSpans c, s.IsTame := by
  have hcodes : (verdictStyle c.verdict).codes ≠ [] := by
    unfold verdictStyle
    cases c.verdict.colour <;> decide
  simp only [resultSpans, List.forall_mem_cons]
  refine ⟨.styled hcodes ?_ ?_, .plain (escape_notMem_resultRest hid hdetail), nofun⟩ <;>
    cases c.verdict <;> simp only [Verdict.label] <;> decide

theorem tame_tally (r : Report) : ∀ s ∈ r.tallySpans, s.IsTame := by
  have hcodes : r.tallyStyle.codes ≠ [] := by
    unfold tallyStyle
    split <;> decide
  have hescape : escapeMark ∉ r.tally.toText.toList := by
    intro h
    exact absurd (Tally.mem_toText h) (by decide)
  have hline : '\n' ∉ r.tally.toText.toList := by
    intro h
    exact absurd (Tally.mem_toText h) (by decide)
  simp only [tallySpans, List.forall_mem_cons]
  refine ⟨.styled ?_ ?_ ?_, .plain ?_, .styled hcodes hescape hline, .plain ?_, nofun⟩ <;> decide

theorem tame_spans {r : Report} (h : r.HasNoEscape) : ∀ s ∈ r.spans, s.IsTame := by
  rw [spans, List.forall_mem_append, List.forall_mem_append]
  refine ⟨⟨tame_header h, ?_⟩, tame_tally r⟩
  intro s hs
  obtain ⟨c, hc, hs⟩ := List.mem_flatMap.1 hs
  exact tame_result (h.ids c hc) (h.details c hc) s hs

/-- Cells that show the first line: the name of the program is bold, and nothing in it has a colour. -/
def ShowsHeader (r : Report) (line : List Cell) : Prop :=
  ∃ rest, r.headerLine false = "gvsmoke" ++ rest ∧
    line = inked { bold := true } "gvsmoke" ++ inked {} (rest ++ "\n")

/-- Cells that show the line of a result: its label is red exactly if it is a failure, and the line goes on
without a style behind it. -/
def ShowsResult (c : CheckResult) (line : List Cell) : Prop :=
  ∃ style rest, resultLine false c = padded 7 c.verdict.label ++ " " ++ c.id ++ rest ∧
    line = inked style (padded 7 c.verdict.label) ++ inked {} (" " ++ c.id ++ rest ++ "\n") ∧
    (style.colour = some .red ↔ c.verdict.isFailure = true)

/-- Cells that show the last line: the text of the tally is red exactly if the run has failed. -/
def ShowsTally (r : Report) (line : List Cell) : Prop :=
  ∃ style, line = inked { dimmed := true } "=====" ++ inked {} " " ++ inked style r.tally.toText ++
      inked {} "\n" ∧
    (style.colour = some .red ↔ r.exitCode = 1)

theorem showsHeader_spans (r : Report) : r.ShowsHeader (r.headerSpans.flatMap Span.cells) := by
  refine ⟨r.headerRest, headerLine_eq r false, ?_⟩
  simp only [headerSpans, List.flatMap_cons, List.flatMap_nil, List.append_nil]
  rfl

theorem showsResult_spans (c : CheckResult) : ShowsResult c ((resultSpans c).flatMap Span.cells) := by
  refine ⟨verdictStyle c.verdict, resultRest c, resultLine_eq c false, ?_, ?_⟩
  · simp only [resultSpans, List.flatMap_cons, List.flatMap_nil, List.append_nil]
    rfl
  · rw [verdictStyle, Option.some_inj]
    exact c.verdict.colour_eq_red_iff

theorem showsTally_spans (r : Report) : r.ShowsTally (r.tallySpans.flatMap Span.cells) := by
  refine ⟨r.tallyStyle, ?_, ?_⟩
  · simp only [tallySpans, List.flatMap_cons, List.flatMap_nil, List.append_nil, List.append_assoc]
    rfl
  · unfold tallyStyle exitCode
    split <;> simp

/-- Without its sequences of style, the coloured report is the report without colours; each sequence is
ended on its line; and the labels of failures are red, and no others, as the tally is if the run failed. -/
theorem colours_follow_verdicts {r : Report} (h : r.HasNoEscape) :
    unstyled (r.toHuman true) = r.toHuman false ∧
    IsClosed (pieces (r.toHuman true).toList) ∧
    ∃ header entries summary,
      painted (r.toHuman true) = header ++ entries.flatten ++ summary ∧ r.ShowsHeader header ∧
      List.Forall₂ ShowsResult r.results entries ∧ r.ShowsTally summary := by
  have htame : ∀ s ∈ r.spans, s.IsTame := tame_spans h
  have hentries : List.Forall₂ ShowsResult r.results
      (r.results.map fun c => (resultSpans c).flatMap Span.cells) := by
    rw [List.forall₂_map_right_iff, List.forall₂_same]
    exact fun c _ => showsResult_spans c
  rw [toHuman_eq_join, toHuman_eq_join]
  refine ⟨Span.unstyled_join htame, Span.isClosed_join htame, r.headerSpans.flatMap Span.cells, _,
    r.tallySpans.flatMap Span.cells, ?_, showsHeader_spans r, hentries, showsTally_spans r⟩
  rw [Span.painted_join htame, spans, List.flatMap_append, List.flatMap_append, List.flatMap_assoc,
    ← List.flatMap_def]

/-- A report with all kinds of verdicts, and with a detail of two lines that looks like a sequence. -/
theorem colours_follow_verdicts_of_all_kinds :
    let r : Report := .ofResults ⟨0, 0⟩ { osId := some "ubuntu", asan := true } "dot"
      [⟨"existence::dot", .passed, 0⟩, ⟨"existence::mingle", .skipped "no ANN", 0⟩,
        ⟨"format::svg", .failed "Warning: [31m\nError: no renderer", 0⟩,
        ⟨"format::gd", .xfailed "no gd", 0⟩, ⟨"format::png", .xpassed "no cairo" true, 0⟩,
        ⟨"format::pov", .xpassed "no pov" false, 0⟩]
    r.HasNoEscape ∧ r.exitCode = 1 ∧ IsClosed (pieces (r.toHuman true).toList) ∧
      unstyled (r.toHuman true) = "gvsmoke os=ubuntu build_system=<unset> system=Linux asan\n" ++
        "PASSED  existence::dot\nSKIPPED existence::mingle - no ANN\n" ++
        "FAILED  format::svg - Warning: [31m\nError: no renderer\nXFAIL   format::gd - no gd\n" ++
        "XPASS   format::png - no cairo\nXPASS   format::pov - no pov\n" ++
        "===== 2 failed, 1 passed, 1 skipped, 1 xfailed, 1 xpassed\n" := by
  intro r
  have h : r.HasNoEscape := ⟨by decide, by decide, by decide, by decide⟩
  obtain ⟨hplain, hclosed, -⟩ := colours_follow_verdicts h
  exact ⟨h, by decide, hclosed, hplain.trans (by decide +kernel)⟩

end Report

end SmokeSuite
