import SmokeSuite.Expectation
import SmokeSuite.Proofs.Text.Substitution

namespace SmokeSuite

open Text

/-- The placeholders of a reason, in the order in which they are replaced. -/
def reasonPlaceholders (tool : String) (e : Snapshot) : List Placeholder :=
  [{ name := "tool".toList, value := tool.toList },
    { name := "os_id".toList, value := e.osIdText.toList },
    { name := "build_system".toList, value := e.buildSystemText.toList }]

theorem renderReason_eq_replaceInTurn (template tool : String) (e : Snapshot) :
    renderReason template tool e =
      .ofList (Placeholder.replaceInTurn (reasonPlaceholders tool e) template.toList) := by
  unfold renderReason replaceText
  simp only [String.toList_ofList]
  rfl

theorem areIndependent_reasonPlaceholders {tool : String} {e : Snapshot} (htool : '{' ∉ tool.toList)
    (hos : '{' ∉ e.osIdText.toList) : Placeholder.AreIndependent (reasonPlaceholders tool e) := by
  simp [Placeholder.AreIndependent, reasonPlaceholders, htool, hos]

/-- A reason is its template with every placeholder replaced in one pass, where no brace is opened by the
tool or the operating system, nor by the template between an open brace and the next closed one. The build
system can be called anything, since nothing is replaced after it. -/
theorem renderReason_eq_expand {template tool : String} {e : Snapshot}
    (hflat : isFlat template.toList = true) (htool : '{' ∉ tool.toList)
    (hos : '{' ∉ e.osIdText.toList) :
    renderReason template tool e =
      .ofList (Placeholder.expand (reasonPlaceholders tool e) template.toList) := by
  rw [renderReason_eq_replaceInTurn]
  have hplaceholders := areIndependent_reasonPlaceholders htool hos
  rw [Placeholder.replaceInTurn_eq_expand hplaceholders hflat]

/-- A build system that looks like a placeholder is left as it is, and so are braces around another name or
without an end. -/
theorem renderReason_eq_expand_of_braces :
    let template := "\x7btool\x7d (\x7bversion\x7d) is missing on \x7bos_id\x7d: \x7bbuild_system\x7d \x7b\x7bos_id"
    let e : Snapshot := { osId := some "ubuntu", buildSystem := some "\x7btool\x7d" }
    isFlat template.toList = true ∧ '{' ∉ "dot".toList ∧ '{' ∉ e.osIdText.toList ∧
      renderReason template "dot" e =
        .ofList (Placeholder.expand (reasonPlaceholders "dot" e) template.toList) ∧
      renderReason template "dot" e =
        "dot (\x7bversion\x7d) is missing on ubuntu: \x7btool\x7d \x7b\x7bos_id" := by
  intro template e
  have hflat : isFlat template.toList = true := by decide +kernel
  have htool : '{' ∉ "dot".toList := by decide
  have hos : '{' ∉ e.osIdText.toList := by decide
  exact ⟨hflat, htool, hos, renderReason_eq_expand hflat htool hos, by decide +kernel⟩

end SmokeSuite
