import SmokeSuite.Proofs.Check.Failure
import SmokeSuite.Proofs.Text.OneLine

namespace SmokeSuite

open Text (IsOneLine)

def Verdict.OnOneLine (v : Verdict) : Prop := ∀ detail, v.detail = some detail → IsOneLine detail

/-- Whether nothing that a suite may bring into a report holds a line feed. -/
structure Suite.OnOneLine (s : Suite) : Prop where
  tools : ∀ tool ∈ s.tools, IsOneLine tool
  formats : ∀ t ∈ s.formats, IsOneLine t.format
  exclusions : ∀ x ∈ s.exclusions, IsOneLine x.reason
  markers : ∀ t ∈ s.formats, ∀ x, t.xfail = some x → IsOneLine x.reason

/-- Whether nothing that a bench may bring into a report holds a line feed. What the layout binary writes
does not matter where it ends well. -/
structure Bench.OnOneLine (b : Bench) : Prop where
  osId : IsOneLine b.environment.osIdText
  buildSystem : IsOneLine b.environment.buildSystemText
  program : IsOneLine b.program
  version : ∀ version, b.expectedVersion = some version → IsOneLine version
  error : ∀ files arguments input e, (b.invoke files arguments input).1.result = .error e →
    IsOneLine e.message
  output : ∀ files arguments input o, (b.invoke files arguments input).1.result = .ok o →
    o.status.isSuccess = false → '\n' ∉ o.errorText ∧ '\n' ∉ Text.trim o.merged

namespace Verdict

theorem onOneLine_passed : passed.OnOneLine := nofun

theorem onOneLine_of_detail {v : Verdict} {detail : String} (hv : v.detail = some detail)
    (h : IsOneLine detail) : v.OnOneLine := by
  intro d hd
  obtain rfl : detail = d := Option.some.inj (hv.symm.trans hd)
  exact h

/-- A marker that applies tells its own reason. -/
theorem OnOneLine.resolve {v : Verdict} (hv : v.OnOneLine) {marker : Option String}
    (hmarker : ∀ reason, marker = some reason → IsOneLine reason) (strict : Bool) :
    (v.resolve marker strict).OnOneLine := by
  cases marker with
  | none => exact hv
  | some reason =>
    have hreason := hmarker reason rfl
    cases v with
    | passed | failed => exact onOneLine_of_detail rfl hreason
    | skipped | xfailed | xpassed => exact hv

end Verdict

namespace Check

theorem isOneLine_renderReason {template tool : String} {e : Snapshot} (htemplate : IsOneLine template)
    (htool : IsOneLine tool) (hos : IsOneLine e.osIdText) (hbuild : IsOneLine e.buildSystemText) :
    IsOneLine (renderReason template tool e) :=
  Text.isOneLine_replaceText hbuild
    (Text.isOneLine_replaceText hos (Text.isOneLine_replaceText htool htemplate))

section Cases

variable {b : Bench}

theorem onOneLine_existence (hb : b.OnOneLine) {tool : String} {xs : List Exclusion}
    (htool : IsOneLine tool) (hxs : ∀ x ∈ xs, IsOneLine x.reason) (files : FileTree) :
    (existenceVerdict tool (Expectation.decide tool xs b.environment) b files).OnOneLine := by
  cases hfind : xs.find? (Expectation.concerns · tool b.environment) with
  | none =>
    simp only [Expectation.decide, hfind, existenceVerdict]
    cases b.locate files tool with
    | some path => exact Verdict.onOneLine_passed
    | none =>
      exact Verdict.onOneLine_of_detail rfl (Text.isOneLine_append.2 ⟨htool, by decide⟩)
  | some x =>
    have hreason := hxs x (List.mem_of_find?_eq_some hfind)
    simp only [Expectation.decide, hfind, existenceVerdict]
    cases b.locate files tool with
    | some path =>
      refine Verdict.onOneLine_of_detail rfl ?_
      simp only [resurrectedText, Text.isOneLine_append, and_assoc]
      exact ⟨htool, by decide, hb.buildSystem, by decide, hb.osId, by decide⟩
    | none =>
      exact Verdict.onOneLine_of_detail rfl (isOneLine_renderReason hreason htool hb.osId hb.buildSystem)

theorem isOneLine_statusText (s : ExitStatus) : IsOneLine (statusText s) := by
  cases s with
  | exited code => exact Text.isOneLine_toString code
  | signalled => decide

theorem isOneLine_codeText (s : ExitStatus) : IsOneLine (codeText s) := by
  cases s with
  | exited code =>
    simp only [codeText, Text.isOneLine_append, and_assoc]
    exact ⟨by decide, Text.isOneLine_toString code, by decide⟩
  | signalled => decide

theorem onOneLine_format (hb : b.OnOneLine) {t : FormatTarget} (hformat : IsOneLine t.format)
    (hmarker : ∀ x, t.xfail = some x → IsOneLine x.reason) (files : FileTree) :
    (runFormat t b files).verdict.OnOneLine := by
  rw [verdict_runFormat]
  refine Verdict.OnOneLine.resolve ?_ (fun reason hreason => ?_) _
  · cases hanswer : renderAnswer t b files with
    | error e => exact Verdict.onOneLine_of_detail rfl (hb.error _ _ _ e hanswer)
    | ok o =>
      cases hstatus : o.status.isSuccess with
      | true =>
        simp only [renderVerdict, hstatus, if_true]
        exact Verdict.onOneLine_passed
      | false =>
        have herror := (hb.output _ _ _ o hanswer hstatus).1
        simp only [renderVerdict, hstatus, Bool.false_eq_true, if_false]
        refine Verdict.onOneLine_of_detail rfl ?_
        simp only [Text.isOneLine_append, Text.isOneLine_ofList, and_assoc]
        exact ⟨hb.program, by decide, hformat, by decide, isOneLine_statusText o.status, by decide,
          herror⟩
  · obtain ⟨x, hx, -, rfl⟩ := ExpectedFailure.reasonIn_eq_some_iff.1 hreason
    exact hmarker x hx

/-- A report in which no version is found is told in quotes, and a version is a word; so where the binary
ends well, only the expected version can hold a line feed. -/
theorem onOneLine_versionVerdict_of_success {program expected : String} {o : CommandOutput}
    (hstatus : o.status.isSuccess = true) (hexpected : IsOneLine expected) :
    (versionVerdict program expected (.ok o)).OnOneLine := by
  simp only [versionVerdict, hstatus, Bool.not_true, Bool.false_eq_true, if_false]
  cases hversion : reportedVersion o.merged with
  | none =>
    refine Verdict.onOneLine_of_detail rfl (Text.isOneLine_append.2 ⟨by decide, ?_⟩)
    exact Text.isOneLine_ofList.2 (Text.notMem_quoted _)
  | some version =>
    by_cases hv : version = expected.toList
    · simp only [hv, if_true]
      exact Verdict.onOneLine_passed
    · simp only [hv, if_false]
      refine Verdict.onOneLine_of_detail rfl ?_
      simp only [Text.isOneLine_append, Text.isOneLine_ofList, and_assoc]
      exact ⟨by decide, hexpected, by decide, Text.notMem_of_getElem?_words hversion⟩

theorem onOneLine_version (hb : b.OnOneLine) (files : FileTree) :
    (runVersion b files).verdict.OnOneLine := by
  cases hexpected : b.expectedVersion with
  | none =>
    simp only [runVersion, hexpected]
    exact Verdict.onOneLine_of_detail rfl (by decide)
  | some expected =>
    rw [verdict_runVersion_of_some hexpected]
    cases hanswer : versionAnswer b files with
    | error e => exact Verdict.onOneLine_of_detail rfl (hb.error _ _ _ e hanswer)
    | ok o =>
      cases hstatus : o.status.isSuccess with
      | true =>
        exact onOneLine_versionVerdict_of_success hstatus (hb.version expected hexpected)
      | false =>
        have houtput := (hb.output _ _ _ o hanswer hstatus).2
        simp only [versionVerdict, hstatus, Bool.not_false, if_true]
        refine Verdict.onOneLine_of_detail rfl ?_
        simp only [Text.isOneLine_append, Text.isOneLine_ofList, and_assoc]
        exact ⟨hb.program, by decide, isOneLine_codeText o.status, by decide, houtput⟩

end Cases

end Check

end SmokeSuite
