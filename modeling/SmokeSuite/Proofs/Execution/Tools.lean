import SmokeSuite.Execution
import SmokeSuite.Proofs.Machine.Starting
import Mathlib.Control.Monad.Basic

namespace SmokeSuite

/-- Only what has one component and is found is run at another path than its name. -/
theorem resolveProgram_of_found {locate : String → Option String} {name path : String}
    (hname : PathText.isCompound name = false) (h : locate name = some path) :
    resolveProgram locate name = path := by
  simp [resolveProgram, hname, h]

theorem resolveProgram_unchanged {locate : String → Option String} {name : String}
    (h : locate name = none ∨ PathText.isCompound name = true) : resolveProgram locate name = name := by
  rcases h with h | h <;> simp [resolveProgram, h]

theorem Check.passed_existence_iff {b : Bench} {files : FileTree} {name : String} {xs : List Exclusion}
    {e : Snapshot} (h : Expectation.decide name xs e = .mustExist) :
    ((Check.existence name xs e).run b files).verdict = .passed ↔
      ∃ path, b.locate files name = some path := by
  have hrun : ((Check.existence name xs e).run b files).verdict =
      existenceVerdict name .mustExist b files := by
    rw [← h]
    rfl
  rw [hrun]
  cases hl : b.locate files name <;> simp [existenceVerdict, hl]

namespace Machine

theorem home_searchPath_ne (m : Machine) (text : String) : (m.searchPath text).home ≠ some "" := by
  cases h : m.lossyValue "HOME" with
  | none => simp [searchPath, Snapshot.nonEmpty, h]
  | some home =>
    by_cases hempty : home = "" <;> simp [searchPath, Snapshot.nonEmpty, h, hempty]

theorem result_invocationOf_ne (program : String) (limit : Duration) (isDone : Bool) (k : Kernel)
    (cause : StartError) :
    (invocationOf program limit isDone k).result ≠ .error (.notStarted program cause) := by
  cases isDone with
  | false => simp [invocationOf]
  | true => cases h : k.conclusion <;> simp [invocationOf, h]

/-- What a program was found for is started. -/
theorem result_start_ne (m : Machine) (program : String) (limit : Duration)
    (input : Option (List UInt8)) (found : Octets × List Octets) (cause : StartError) :
    (m.start program limit input (.ok found)).1.result ≠ .error (.notStarted program cause) := by
  rw [start]
  exact result_invocationOf_ne program limit _ _ cause

/-- What is found under a name is started from where it was found, but for a tool that an empty entry gives:
its path is a bare name, which is searched for once more. -/
theorem starts_of_found {m : Machine} {text name path : String}
    (hname : PathText.isCompound name = false) (h : m.locate (m.searchPath text) name = some path) :
    ('/' ∈ path.toList → m.Starts path path) ∧
      ('/' ∉ path.toList →
        path = name ∧ ∃ entries, (m.searchPath text).IsMadeOf entries ∧ "" ∈ entries) := by
  constructor
  · intro hslash
    exact starts_of_slash hslash (FileTree.isExecutable_iff.1 (SearchPath.canRun_of_find h))
  · intro hslash
    have hfirst := (SearchPath.find_eq_some_iff (fun _ => Iff.rfl) hname).1 h
    exact SearchPath.eq_name_of_no_slash (m.home_searchPath_ne text) hfirst hslash

end Machine

namespace Execution

/-- A tool is looked for in the order of the search path, on every file system, by the bench of a suite as
well. What is found can be run. The check that the tool exists goes by it, and so does the layout binary,
which is started from there if its path holds a slash. -/
theorem tools_found_in_order (m : Machine) (o : CommandLine.Options) (t : Suite) (ds : Definitions)
    (s : SearchPath) (p q name : String) :
    let b := bench m o t ds
    let path := searchPath m o
    let dot := o.dot.getD t.dot
    -- any search path
    (m.locate { s with text := p ++ ":" ++ q } name =
      (m.locate { s with text := p } name).or (m.locate { s with text := q } name)) ∧
    (∀ found, m.locate s name = some found → m.files.LeadsToProgram m.directory found) ∧
    (PathText.isCompound name = false → ∀ found,
      (m.locate s name = some found ↔ s.FirstPlace (m.files.LeadsToProgram m.directory) name found) ∧
      (m.locate s name = some found → resolveProgram (m.locate s) name = found)) ∧
    (m.locate s name = none ∨ PathText.isCompound name = true →
      resolveProgram (m.locate s) name = name) ∧
    -- the search path of the options
    path = m.searchPath ((o.path.or (m.lossyValue "PATH")).getD "") ∧
    (∀ files, b.locate files name = path.find (files.isExecutable m.directory) name) ∧
    (∀ files xs e, Expectation.decide name xs e = .mustExist →
      (((Check.existence name xs e).run b files).verdict = .passed ↔
        ∃ found, path.find (files.isExecutable m.directory) name = some found)) ∧
    -- the layout binary
    (b.program = resolveProgram (m.locate path) dot) ∧
    (∀ files arguments input, b.invoke files arguments input =
      { m with files }.invoke b.program o.timeout arguments input) ∧
    (PathText.isCompound dot = false → ∀ found, m.locate path dot = some found →
      b.program = found ∧
      ('/' ∈ found.toList → m.Starts b.program found) ∧
      ('/' ∉ found.toList → found = dot ∧ ∃ entries, path.IsMadeOf entries ∧ "" ∈ entries)) := by
  refine ⟨s.find_append m.canRun p q name, fun found h => ?_, fun hname found => ⟨?_, ?_⟩,
    resolveProgram_unchanged, rfl, fun _ => rfl, fun files xs e hmust => ?_, rfl, fun _ _ _ => rfl,
    fun hname found h => ?_⟩
  · exact FileTree.isExecutable_iff.1 (SearchPath.canRun_of_find h)
  · exact SearchPath.find_eq_some_iff (fun _ => FileTree.isExecutable_iff) hname
  · exact resolveProgram_of_found hname
  · exact Check.passed_existence_iff hmust
  · have hprogram : (bench m o t ds).program = found := resolveProgram_of_found hname h
    rw [hprogram]
    exact ⟨rfl, Machine.starts_of_found hname h⟩

/-- A tool in the directory at hand, which the machine's own search path does not hold. -/
def localTool : Machine where
  files := ⟨[(["work", "gvlayout"], Image.nativeEntry "true")]⟩
  directory := ["work"]
  bindings := [("PATH", Text.Utf8.encode "/usr/bin:/bin".toList)]

theorem not_starts_localTool : ¬ localTool.Starts "gvlayout" "gvlayout" := by
  rintro ⟨l, content, hfollow, hstarts⟩
  have hfits : Machine.Fits ["gvlayout"] := by
    intro a ha
    rw [List.mem_singleton.1 ha]
    decide +kernel
  have hsame := hstarts ⟨1, 0⟩ [] none hfits
  have hmissing : (localTool.invoke "gvlayout" ⟨1, 0⟩ [] none).1.result =
      .error (.notStarted "gvlayout" (.system .notFound)) := by decide +kernel
  have hentry : (localTool.files.follow localTool.directory "gvlayout").map (·.2) =
      .ok (Image.nativeEntry "true") := by decide +kernel
  rw [hfollow] at hentry
  have hcontent : content = Image.mark.toBytes ++ (Octets.ofString "true").toBytes := by
    injection Except.ok.inj hentry
  have hfile : Image.ofFile localTool.files localTool.directory content (Octets.ofString "gvlayout") [] =
      .ok ("true".toList, ["gvlayout".toList]) := by
    rw [hcontent]
    decide +kernel
  rw [List.map_nil, hfile] at hsame
  exact Machine.result_start_ne _ _ _ _ _ _ (hsame ▸ hmissing)

/-- With an empty entry in the search path of the options, the check passes for a tool that is then not run. -/
theorem found_is_not_run :
    let o : CommandLine.Options := { path := some ":/nowhere" }
    let b := bench localTool o { tools := ["gvlayout"], dot := "gvlayout" } []
    ((Check.existence "gvlayout" [] b.environment).run b localTool.files).verdict = .passed ∧
      (searchPath localTool o).find localTool.canRun "gvlayout" = some "gvlayout" ∧
      b.program = "gvlayout" ∧
      (b.invoke localTool.files ["-V"] none).1.result =
        .error (.notStarted "gvlayout" (.system .notFound)) ∧
      ¬ localTool.Starts b.program "gvlayout" := by
  refine ⟨by decide +kernel, by decide +kernel, by decide +kernel, by decide +kernel, ?_⟩
  have hprogram : (bench localTool { path := some ":/nowhere" }
      { tools := ["gvlayout"], dot := "gvlayout" } []).program = "gvlayout" := by decide +kernel
  rw [hprogram]
  exact not_starts_localTool

end Execution

end SmokeSuite
