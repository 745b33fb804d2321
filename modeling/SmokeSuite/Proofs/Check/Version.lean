import SmokeSuite.Proofs.Check.Description
import SmokeSuite.Proofs.Text.Utf8
import SmokeSuite.Proofs.Text.Words

namespace SmokeSuite

/-- The same bench with a layout binary that answers everything alike. -/
def Bench.answering (b : Bench) (answer : Except InvocationError CommandOutput) : Bench :=
  { b with invoke := fun files _ _ => ({ result := answer }, files) }

theorem CommandOutput.merged_encode (status : ExitStatus) (x y : List Char) :
    merged ⟨status, Text.Utf8.encode x, Text.Utf8.encode y⟩ = x ++ y := by
  simp only [merged, Text.Utf8.decodeLossy_encode]

namespace Check

theorem verdict_runVersion_cases (b : Bench) (files : FileTree) :
    (runVersion b files).verdict = .passed ∨
      ∃ message, (runVersion b files).verdict = .failed message := by
  cases h : b.expectedVersion with
  | none =>
    right
    refine ⟨"GV_VERSION is not set and no expected version was given", ?_⟩
    simp only [runVersion, h]
  | some expected =>
    rw [verdict_runVersion_of_some h]
    exact versionVerdict_cases b.program expected _

theorem isFailure_of_passed_or_failed {v : Verdict} (h : v = .passed ∨ ∃ message, v = .failed message) :
    v = .passed ↔ v.isFailure = false := by
  rcases h with rfl | ⟨message, rfl⟩ <;> simp [Verdict.isFailure]

theorem passed_runVersion_iff (b : Bench) (files : FileTree) :
    (runVersion b files).verdict = .passed ↔
      ∃ expected o, b.expectedVersion = some expected ∧ versionAnswer b files = .ok o ∧
        o.status.isSuccess = true ∧ (Text.words o.merged)[versionWord]? = some expected.toList := by
  rw [isFailure_of_passed_or_failed (verdict_runVersion_cases b files), isFailure_runVersion]
  constructor
  · rintro ⟨expected, hexpected, o, hanswer, hstatus, hword⟩
    exact ⟨expected, o, hexpected, hanswer, hstatus, hword⟩
  · rintro ⟨expected, o, hexpected, hanswer, hstatus, hword⟩
    exact ⟨expected, hexpected, o, hanswer, hstatus, hword⟩

theorem not_passed_of_not_isWord {b : Bench} {expected : String} (h : b.expectedVersion = some expected)
    (hword : ¬ Text.IsWord expected.toList) (files : FileTree) :
    ∃ message, (runVersion b files).verdict = .failed message := by
  refine (verdict_runVersion_cases b files).resolve_left fun hpassed => ?_
  obtain ⟨v, o, hv, -, -, hat⟩ := (passed_runVersion_iff b files).1 hpassed
  have hsame : expected = v := Option.some.inj (h.symm.trans hv)
  subst hsame
  obtain ⟨-, -, -, -, -, -, -, hfound, -⟩ := Text.getElem?_words_iff.1 hat
  exact hword hfound

section answering

variable {b : Bench} {files : FileTree} {o o' : CommandOutput}

theorem passed_answering_iff : (runVersion (b.answering (.ok o)) files).verdict = .passed ↔
    ∃ expected, b.expectedVersion = some expected ∧ o.status.isSuccess = true ∧
      (Text.words o.merged)[versionWord]? = some expected.toList := by
  have hanswer : versionAnswer (b.answering (.ok o)) files = .ok o := rfl
  rw [passed_runVersion_iff]
  constructor
  · rintro ⟨expected, p, hexpected, hp, hstatus, hword⟩
    obtain rfl : o = p := Except.ok.inj (hanswer.symm.trans hp)
    exact ⟨expected, hexpected, hstatus, hword⟩
  · rintro ⟨expected, hexpected, hstatus, hword⟩
    exact ⟨expected, o, hexpected, hanswer, hstatus, hword⟩

/-- White space between words is as good as any other. -/
theorem passed_answering_of_spacing {x g g' y : List Char} (hg : Text.IsSpacing g)
    (hg' : Text.IsSpacing g') (hstatus : o.status = o'.status) (ho : o.merged = x ++ g ++ y)
    (ho' : o'.merged = x ++ g' ++ y) :
    (runVersion (b.answering (.ok o)) files).verdict = .passed ↔
      (runVersion (b.answering (.ok o')) files).verdict = .passed := by
  have hwords : Text.words o.merged = Text.words o'.merged := by
    rw [ho, ho', Text.words_append_spacing hg, Text.words_append_spacing hg']
  rw [passed_answering_iff, passed_answering_iff, hwords, hstatus]

/-- An answer counts by its status and by what both streams say together, also where it is told. -/
theorem verdict_answering_congr (hstatus : o.status = o'.status) (hmerged : o.merged = o'.merged) :
    (runVersion (b.answering (.ok o)) files).verdict =
      (runVersion (b.answering (.ok o')) files).verdict := by
  have hexpected (answer) : (b.answering answer).expectedVersion = b.expectedVersion := rfl
  cases h : b.expectedVersion with
  | none => simp only [runVersion, hexpected, h]
  | some expected =>
    rw [verdict_runVersion_of_some ((hexpected _).trans h),
      verdict_runVersion_of_some ((hexpected _).trans h)]
    change versionVerdict b.program expected (.ok o) = versionVerdict b.program expected (.ok o')
    simp only [versionVerdict, hstatus, hmerged]

end answering

/-- The check of the version passes exactly if the binary runs well and the expected version is the fifth
word of what it writes, and it fails in every other case. So a version that is no word is never found;
white space between words, and the stream that a text is written to, change nothing. -/
theorem version_passes_on_fifth_word (b : Bench) (files : FileTree) :
    let verdict := fun b : Bench => (version.run b files).verdict
    (verdict b = .passed ↔
      ∃ expected o, b.versionOverride.or b.environment.version = some expected ∧
        versionAnswer b files = .ok o ∧ o.status.isSuccess = true ∧
        Text.StandsAt 4 expected.toList
          (Text.Utf8.decodeLossy o.stdout ++ Text.Utf8.decodeLossy o.stderr)) ∧
    (verdict b ≠ .passed → ∃ message, verdict b = .failed message) ∧
    (∀ expected, b.versionOverride.or b.environment.version = some expected →
      (expected = "" ∨ ∃ c ∈ expected.toList, Text.isBlank c = true) →
      ∃ message, verdict b = .failed message) ∧
    (∀ (o o' : CommandOutput) (x g g' y : List Char), Text.IsSpacing g → Text.IsSpacing g' →
      o.status = o'.status → o.merged = x ++ g ++ y → o'.merged = x ++ g' ++ y →
      (verdict (b.answering (.ok o)) = .passed ↔ verdict (b.answering (.ok o')) = .passed)) ∧
    ∀ (status : ExitStatus) (x y : List Char),
      verdict (b.answering (.ok ⟨status, Text.Utf8.encode x, Text.Utf8.encode y⟩)) =
        verdict (b.answering (.ok ⟨status, [], Text.Utf8.encode (x ++ y)⟩)) := by
  intro verdict
  refine ⟨?_, (verdict_runVersion_cases b files).resolve_left, ?_, ?_, ?_⟩
  · simp only [← Text.getElem?_words_iff]
    exact passed_runVersion_iff b files
  · intro expected hexpected hodd
    refine not_passed_of_not_isWord hexpected (fun hword => ?_) files
    rcases hodd with rfl | ⟨c, hc, hblank⟩
    · exact hword.ne_nil rfl
    · rw [hword.solid c hc] at hblank
      cases hblank
  · intro o o' x g g' y hg hg' hstatus ho ho'
    exact passed_answering_of_spacing hg hg' hstatus ho ho'
  · intro status x y
    refine verdict_answering_congr rfl ?_
    rw [CommandOutput.merged_encode]
    exact (CommandOutput.merged_encode status [] (x ++ y)).symm

end Check

end SmokeSuite
