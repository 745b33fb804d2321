import SmokeSuite.Check.Existence
import SmokeSuite.Check.Format
import SmokeSuite.Check.Version

namespace SmokeSuite

/-- Whether a program ran to its end and ended well. -/
def Succeeds (result : Except InvocationError CommandOutput) : Prop :=
  ∃ o, result = .ok o ∧ o.status.isSuccess = true

theorem succeeds_ok {o : CommandOutput} : Succeeds (.ok o) ↔ o.status.isSuccess = true := by
  simp [Succeeds]

theorem not_succeeds_error {e : InvocationError} : ¬ Succeeds (.error e) := by
  simp [Succeeds]

theorem ExpectedFailure.reasonIn_eq_none_iff {x : Option ExpectedFailure} {e : Snapshot} :
    reasonIn x e = none ↔ ∀ y, x = some y → y.condition.holdsIn e = false := by
  cases x with
  | none => simp [reasonIn]
  | some y => simp [reasonIn, Option.filter]

theorem ExpectedFailure.reasonIn_eq_some_iff {x : Option ExpectedFailure} {e : Snapshot}
    {reason : String} :
    reasonIn x e = some reason ↔
      ∃ y, x = some y ∧ y.condition.holdsIn e = true ∧ y.reason = reason := by
  cases x with
  | none => simp [reasonIn]
  | some y => simp [reasonIn, Option.filter]

namespace Check

theorem isFailure_existenceVerdict (tool : String) (x : Expectation) (b : Bench) (files : FileTree) :
    (existenceVerdict tool x b files).isFailure = false ↔
      ((b.locate files tool).isSome = true ↔ x = .mustExist) := by
  cases x <;> cases hl : b.locate files tool <;> simp [existenceVerdict, hl, Verdict.isFailure]

/-- Before its marker is looked at, a render that ends well passes and any other one fails. -/
theorem renderVerdict_cases (t : FormatTarget) (program : String)
    (result : Except InvocationError CommandOutput) :
    (Succeeds result ∧ renderVerdict t program result = .passed) ∨
      (¬ Succeeds result ∧ ∃ message, renderVerdict t program result = .failed message) := by
  cases result with
  | error e => exact .inr ⟨not_succeeds_error, e.message, rfl⟩
  | ok o =>
    rw [succeeds_ok]
    cases hs : o.status.isSuccess with
    | true => exact .inl ⟨rfl, by simp [renderVerdict, hs]⟩
    | false => exact .inr ⟨nofun, by simp [renderVerdict, hs]⟩

theorem isFailure_renderVerdict (t : FormatTarget) (program : String)
    (result : Except InvocationError CommandOutput) :
    (renderVerdict t program result).isFailure = false ↔ Succeeds result := by
  rcases renderVerdict_cases t program result with ⟨hs, hv⟩ | ⟨hs, message, hv⟩
  · simp [hv, hs, Verdict.isFailure]
  · simp [hv, hs, Verdict.isFailure]

/-- With a marker that applies, only a strict one turns an end that is well into a failure. -/
theorem isFailure_resolve_renderVerdict (t : FormatTarget) (program reason : String) (strict : Bool)
    (result : Except InvocationError CommandOutput) :
    ((renderVerdict t program result).resolve (some reason) strict).isFailure = false ↔
      ¬ (strict = true ∧ Succeeds result) := by
  rcases renderVerdict_cases t program result with ⟨hs, hv⟩ | ⟨hs, message, hv⟩
  · simp [hv, hs, Verdict.resolve, Verdict.isFailure]
  · simp [hv, hs, Verdict.resolve, Verdict.isFailure]

/-- The answer to the request to render the graph of a target. -/
def renderAnswer (t : FormatTarget) (b : Bench) (files : FileTree) :
    Except InvocationError CommandOutput :=
  (b.invoke files ["-T" ++ t.format]
    (some (Text.Utf8.encode t.source.toList))).1.result

theorem verdict_runFormat (t : FormatTarget) (b : Bench) (files : FileTree) :
    (runFormat t b files).verdict = (renderVerdict t b.program (renderAnswer t b files)).resolve
      (ExpectedFailure.reasonIn t.xfail b.environment) (isStrict t) := rfl

theorem isFailure_runFormat (t : FormatTarget) (b : Bench) (files : FileTree) :
    (runFormat t b files).verdict.isFailure = false ↔
      (∀ x, t.xfail = some x → x.condition.holdsIn b.environment = true →
        ¬ (x.strict = true ∧ Succeeds (renderAnswer t b files))) ∧
      ((∀ x, t.xfail = some x → x.condition.holdsIn b.environment = false) →
        Succeeds (renderAnswer t b files)) := by
  rw [verdict_runFormat]
  cases hr : ExpectedFailure.reasonIn t.xfail b.environment with
  | none =>
    have hoff := ExpectedFailure.reasonIn_eq_none_iff.1 hr
    have hv : (renderVerdict t b.program (renderAnswer t b files)).resolve none (isStrict t) =
        renderVerdict t b.program (renderAnswer t b files) := rfl
    rw [hv, isFailure_renderVerdict]
    refine ⟨fun hs => ⟨fun x hx hon => ?_, fun _ => hs⟩, fun h => h.2 hoff⟩
    rw [hoff x hx] at hon
    cases hon
  | some reason =>
    obtain ⟨x, hx, hon, -⟩ := ExpectedFailure.reasonIn_eq_some_iff.1 hr
    have hstrict : isStrict t = x.strict := by simp [isStrict, hx]
    rw [isFailure_resolve_renderVerdict, hstrict]
    constructor
    · intro hs
      refine ⟨fun y hy _ => ?_, fun hoff => ?_⟩
      · cases hx.symm.trans hy
        exact hs
      · rw [hoff x hx] at hon
        cases hon
    · exact fun h => h.1 x hx hon

/-- The answer to the question for the version. -/
def versionAnswer (b : Bench) (files : FileTree) : Except InvocationError CommandOutput :=
  (b.invoke files ["-V"] none).1.result

theorem isFailure_versionVerdict (program expected : String)
    (result : Except InvocationError CommandOutput) :
    (versionVerdict program expected result).isFailure = false ↔
      ∃ o, result = .ok o ∧ o.status.isSuccess = true ∧
        reportedVersion o.merged = some expected.toList := by
  cases result with
  | error e => simp [versionVerdict, Verdict.isFailure]
  | ok o =>
    cases hs : o.status.isSuccess with
    | false => simp [versionVerdict, hs, Verdict.isFailure]
    | true =>
      cases hv : reportedVersion o.merged with
      | none => simp [versionVerdict, hs, hv, Verdict.isFailure]
      | some version =>
        by_cases he : version = expected.toList
        · simp [versionVerdict, hs, hv, he, Verdict.isFailure]
        · simp [versionVerdict, hs, hv, he, Verdict.isFailure]

theorem verdict_runVersion_of_some {b : Bench} {expected : String}
    (h : b.expectedVersion = some expected) (files : FileTree) :
    (runVersion b files).verdict = versionVerdict b.program expected (versionAnswer b files) := by
  simp only [runVersion, h]
  rfl

theorem isFailure_runVersion (b : Bench) (files : FileTree) :
    (runVersion b files).verdict.isFailure = false ↔
      ∃ expected, b.expectedVersion = some expected ∧
        ∃ o, versionAnswer b files = .ok o ∧ o.status.isSuccess = true ∧
          reportedVersion o.merged = some expected.toList := by
  cases h : b.expectedVersion with
  | none => simp [runVersion, h, Verdict.isFailure]
  | some expected =>
    rw [verdict_runVersion_of_some h, isFailure_versionVerdict]
    simp

end Check

end SmokeSuite
