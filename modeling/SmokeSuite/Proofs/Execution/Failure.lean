import SmokeSuite.Execution
import SmokeSuite.Proofs.Environment.Merging
import SmokeSuite.Proofs.Roster.Selection
import SmokeSuite.Proofs.Suite.Builtin
import SmokeSuite.Proofs.Suite.Ids

namespace SmokeSuite

namespace Glob.PatternSet

theorem mapM_malformed_eq_error_iff {texts : List String} {cause : SetError} :
    texts.mapM (fun text => (read text).mapError (SetError.malformed text)) = .error cause ↔
      ∃ text c, FailsFirst read texts text c ∧ cause = .malformed text c := by
  induction texts with
  | nil => exact ⟨nofun, fun ⟨_, _, h, _⟩ => (FailsFirst.not_nil h).elim⟩
  | cons t ts ih =>
    rw [List.mapM_cons]
    cases hr : read t with
    | error c =>
      simp only [FailsFirst.head_iff hr]
      constructor
      · intro h
        cases h
        exact ⟨t, c, ⟨rfl, rfl⟩, rfl⟩
      · rintro ⟨_, _, ⟨rfl, rfl⟩, rfl⟩
        rfl
    | ok p =>
      simp only [FailsFirst.tail_iff hr, ← ih]
      cases ts.mapM (fun text => (read text).mapError (SetError.malformed text)) with
      | error c => exact Iff.rfl
      | ok ps => exact ⟨nofun, nofun⟩

/-- A set cannot be built where a text is no pattern, and the first such is named; or else where the
expressions of the patterns nest too deep. -/
theorem ofTexts_eq_error_iff {texts : List String} {cause : SetError} :
    ofTexts texts = .error cause ↔
      (∃ text c, FailsFirst read texts text c ∧ cause = .malformed text c) ∨
        ∃ s, texts.map read = s.map .ok ∧ checkDepth s = .error cause := by
  rw [← mapM_malformed_eq_error_iff]
  simp only [← mapM_malformed_eq_ok_iff]
  unfold ofTexts
  cases texts.mapM (fun text => (read text).mapError (SetError.malformed text)) with
  | error c => simp [bind, Except.bind]
  | ok s => cases hc : checkDepth s <;> simp [bind, Except.bind, pure, Except.pure, hc]

end Glob.PatternSet

namespace Roster

/-- A selection fails for its patterns, or for the names that stand in the roster. -/
theorem snd_select_eq_some_iff {r : Roster} {patterns : List String} {f : Failure} :
    (r.select patterns).2 = some f ↔ patterns ≠ [] ∧
      ((∃ cause, Glob.PatternSet.ofTexts patterns = .error cause ∧ f = .badFilters cause) ∨
        (∀ p ∈ patterns, Glob.isUsable p = true) ∧
          (∀ id ∈ r.ids, ∀ p ∈ patterns, Glob.accepts p id = false) ∧
          f = .nothingSelected patterns) := by
  by_cases hne : patterns = []
  · subst hne
    simp [select_nil]
  cases hs : Glob.PatternSet.ofTexts patterns with
  | error cause =>
    have hu : ¬ ∀ p ∈ patterns, Glob.isUsable p = true := fun h => by
      obtain ⟨s, hok⟩ := Glob.PatternSet.exists_ofTexts_iff.2 h
      rw [hs] at hok
      cases hok
    have hsel : r.select patterns = (r, some (.badFilters cause)) := by simp [select, hne, hs]
    simp [hsel, hne, hu, eq_comm (b := f)]
  | ok globs =>
    have hu := Glob.PatternSet.exists_ofTexts_iff.1 ⟨globs, hs⟩
    have hempty : (r.filter fun c => patterns.any (Glob.accepts · c.id)).checks = [] ↔
        ∀ id ∈ r.ids, ∀ p ∈ patterns, Glob.accepts p id = false := by
      simp [filter, ids, List.filter_eq_nil_iff]
    rw [select_of_usable r hne hu, ← hempty]
    simp only [List.isEmpty_iff, ne_eq, hne, not_false_eq_true, true_and, reduceCtorEq, false_and,
      exists_false, false_or, Option.ite_none_right_eq_some, Option.some.injEq]
    constructor
    · rintro ⟨he, rfl⟩
      exact ⟨hu, he, rfl⟩
    · rintro ⟨-, he, rfl⟩
      exact ⟨he, rfl⟩

end Roster

namespace Execution

/-- A suite that can be had: the built-in one, or the one that a file describes. -/
inductive Loads (readText : String → Except TextError String) : Option String → Suite → Prop
  | builtin : Loads readText none .builtin
  | file {path content : String} {s : Suite} (hread : readText path = .ok content)
      (hdecode : Yaml.load Suite.decoder content = .ok s) (hvalid : s.validate = .ok ()) :
      Loads readText (some path) s

/-- What keeps a suite from being run, and how that is told. Each kind stands behind those before it:
it counts only where none of them holds. -/
inductive Hindrance (readText : String → Except TextError String) (envFiles filters : List String) :
    Option String → Failure → Prop
  | unreadable {path : String} {cause : TextError} (hread : readText path = .error cause) :
      Hindrance readText envFiles filters (some path) (.unreadableSuite path cause)
  | malformed {path content : String} {cause : Yaml.LoadError} (hread : readText path = .ok content)
      (hdecode : Yaml.load Suite.decoder content = .error cause) :
      Hindrance readText envFiles filters (some path) (.malformedSuite cause)
  | invalid {path content : String} {s : Suite} {cause : Suite.Invalid}
      (hread : readText path = .ok content) (hdecode : Yaml.load Suite.decoder content = .ok s)
      (hvalid : s.validate = .error cause) :
      Hindrance readText envFiles filters (some path) (.invalidSuite cause)
  | unreadableVariables {config : Option String} {s : Suite} {path : String} {cause : TextError}
      (hload : Loads readText config s) (hfirst : FailsFirst readText envFiles path cause) :
      Hindrance readText envFiles filters config (.unreadableVariables path cause)
  | filter {config : Option String} {s : Suite} {pattern : String} {cause : Glob.ReadError}
      (hload : Loads readText config s) (henv : ∀ path ∈ envFiles, ∃ text, readText path = .ok text)
      (hfirst : FailsFirst Glob.read filters pattern cause) :
      Hindrance readText envFiles filters config (.badFilters (.malformed pattern cause))
  /-- Each filter is a pattern, but the set of them cannot be built. -/
  | depth {config : Option String} {s : Suite} {globs : Glob.PatternSet} {cause : Glob.SetError}
      (hload : Loads readText config s) (henv : ∀ path ∈ envFiles, ∃ text, readText path = .ok text)
      (hglobs : filters.map Glob.read = globs.map .ok) (hdepth : globs.checkDepth = .error cause) :
      Hindrance readText envFiles filters config (.badFilters cause)
  | selection {config : Option String} {s : Suite} (hload : Loads readText config s)
      (henv : ∀ path ∈ envFiles, ∃ text, readText path = .ok text) (hne : filters ≠ [])
      (husable : ∀ p ∈ filters, Glob.isUsable p = true)
      (hnone : ∀ id ∈ s.checkIds, ∀ p ∈ filters, Glob.accepts p id = false) :
      Hindrance readText envFiles filters config (.nothingSelected filters)

namespace Loads

variable {readText readText' : String → Except TextError String} {config : Option String} {s : Suite}

theorem of_agree (h : ∀ path ∈ config, readText' path = readText path)
    (hs : Loads readText config s) : Loads readText' config s := by
  cases hs with
  | builtin => exact .builtin
  | file hread hdecode hvalid => exact .file ((h _ rfl).trans hread) hdecode hvalid

end Loads

namespace Hindrance

variable {readText readText' : String → Except TextError String} {config : Option String}
  {envFiles filters : List String} {f : Failure}

theorem of_agree (hconfig : ∀ path ∈ config, readText' path = readText path)
    (henv : ∀ path ∈ envFiles, readText' path = readText path)
    (h : Hindrance readText envFiles filters config f) :
    Hindrance readText' envFiles filters config f := by
  have hall (hr : ∀ path ∈ envFiles, ∃ text, readText path = .ok text) :
      ∀ path ∈ envFiles, ∃ text, readText' path = .ok text := by
    intro path hp
    rw [henv path hp]
    exact hr path hp
  cases h with
  | unreadable hread => exact .unreadable ((hconfig _ rfl).trans hread)
  | malformed hread hdecode => exact .malformed ((hconfig _ rfl).trans hread) hdecode
  | invalid hread hdecode hvalid => exact .invalid ((hconfig _ rfl).trans hread) hdecode hvalid
  | unreadableVariables hload hfirst =>
    exact .unreadableVariables (hload.of_agree hconfig) ((FailsFirst.congr henv).2 hfirst)
  | filter hload hr hfirst => exact .filter (hload.of_agree hconfig) (hall hr) hfirst
  | depth hload hr hglobs hdepth => exact .depth (hload.of_agree hconfig) (hall hr) hglobs hdepth
  | selection hload hr hne husable hnone =>
    exact .selection (hload.of_agree hconfig) (hall hr) hne husable hnone

/-- Only what reading the named files gives can hinder. -/
theorem congr (h : ∀ path ∈ config.toList ++ envFiles, readText' path = readText path) :
    Hindrance readText' envFiles filters config f ↔ Hindrance readText envFiles filters config f := by
  have hconfig : ∀ path ∈ config, readText' path = readText path := fun path hp =>
    h path (List.mem_append_left _ (Option.mem_toList.2 hp))
  have henv : ∀ path ∈ envFiles, readText' path = readText path := fun path hp =>
    h path (List.mem_append_right _ hp)
  exact ⟨of_agree (fun path hp => (hconfig path hp).symm) fun path hp => (henv path hp).symm,
    of_agree hconfig henv⟩

end Hindrance

/-- A world to run in: what reading a file gives, the files that the checks find, and the bench that a
suite and the definitions of dotenv files come to. A machine is one with the benches that its variables
and programs make; here they may be any. -/
structure World where
  readText : String → Except TextError String
  files : FileTree
  bench : Suite → Definitions → Bench

namespace World

def ofMachine (m : Machine) (o : CommandLine.Options) : World :=
  { readText := m.readText, files := m.files, bench := Execution.bench m o }

def loadSuite (w : World) : Option String → Except Failure Suite
  | none => Suite.ofYaml Suite.builtinText
  | some path =>
    match w.readText path with
    | .ok content => Suite.ofYaml content
    | .error cause => .error (.unreadableSuite path cause)

/-- Does in a world what the options ask for. -/
def run (w : World) (o : CommandLine.Options) (startedAt : Instant) (colours : Bool) :
    Except Failure Printout := do
  if o.printSchema then return ⟨Suite.schema.toText, 0⟩
  let s ← w.loadSuite o.config
  let (files, failure) := Definitions.merge w.readText [] o.envFiles
  if let some f := failure then throw f
  let b := w.bench s files
  let (roster, failure) := (Roster.ofSuite s b.environment).select o.filters
  if let some f := failure then throw f
  if o.list then return ⟨planText (roster.plan b), 0⟩
  let (report, _) := roster.run b startedAt w.files
  return ⟨if o.json then report.toRecord else report.toHuman colours, report.exitCode⟩

theorem loadSuite_eq_ok_iff {w : World} {config : Option String} {s : Suite} :
    w.loadSuite config = .ok s ↔ Loads w.readText config s := by
  constructor
  · intro h
    unfold loadSuite at h
    split at h
    · cases Suite.ofYaml_builtinText.symm.trans h
      exact .builtin
    · split at h
      · next content hread =>
        obtain ⟨hdecode, hvalid⟩ := Suite.ofYaml_eq_ok_iff.1 h
        exact .file hread hdecode hvalid
      · cases h
  · intro h
    cases h with
    | builtin => exact Suite.ofYaml_builtinText
    | file hread hdecode hvalid =>
      simp only [loadSuite, hread]
      exact Suite.ofYaml_of_valid hdecode hvalid

/-- A run fails in one of three stages, each of which comes to be if those before it do not fail. -/
theorem run_eq_error_iff {w : World} {o : CommandLine.Options} {startedAt : Instant} {colours : Bool}
    {f : Failure} (ho : o.printSchema = false) :
    w.run o startedAt colours = .error f ↔ w.loadSuite o.config = .error f ∨
      ∃ s, w.loadSuite o.config = .ok s ∧
        let merged := Definitions.merge w.readText [] o.envFiles
        (merged.2 = some f ∨ merged.2 = none ∧
          ((Roster.ofSuite s (w.bench s merged.1).environment).select o.filters).2 = some f) := by
  cases hs : w.loadSuite o.config with
  | error e => simp [run, ho, hs, bind, Except.bind]
  | ok s =>
    rcases hm : Definitions.merge w.readText [] o.envFiles with ⟨files, _ | e⟩
    · rcases hr : (Roster.ofSuite s (w.bench s files).environment).select o.filters with
        ⟨roster, _ | e⟩
      · by_cases hl : o.list = true <;>
          simp [run, ho, hs, hm, hr, hl, bind, Except.bind, pure, Except.pure]
      · simp [run, ho, hs, hm, hr, bind, Except.bind, throw, throwThe, MonadExceptOf.throw]
    · simp [run, ho, hs, hm, bind, Except.bind, throw, throwThe, MonadExceptOf.throw]

theorem hindrance_of_loadSuite {w : World} {config : Option String} {envFiles filters : List String}
    {f : Failure} (h : w.loadSuite config = .error f) :
    Hindrance w.readText envFiles filters config f := by
  unfold loadSuite at h
  split at h
  · cases Suite.ofYaml_builtinText.symm.trans h
  · split at h
    · next content hread =>
      obtain ⟨cause, hdecode, rfl⟩ | ⟨s, cause, hdecode, hvalid, rfl⟩ :=
        Suite.ofYaml_eq_error_iff.1 h
      · exact .malformed hread hdecode
      · exact .invalid hread hdecode hvalid
    · next cause hread =>
      cases h
      exact .unreadable hread

/-- A run fails exactly where something hinders it, and tells what. -/
theorem run_eq_error_iff_hindrance {w : World} {o : CommandLine.Options} {startedAt : Instant}
    {colours : Bool} {f : Failure} (ho : o.printSchema = false) :
    w.run o startedAt colours = .error f ↔
      Hindrance w.readText o.envFiles o.filters o.config f := by
  rw [run_eq_error_iff ho]
  simp only [Definitions.snd_merge_eq_some_iff, Definitions.snd_merge_eq_none_iff,
    Roster.snd_select_eq_some_iff, Roster.ids_ofSuite]
  constructor
  · rintro (h | ⟨s, hs, ⟨path, cause, hfirst, rfl⟩ | ⟨henv, hne, hsel⟩⟩)
    · exact hindrance_of_loadSuite h
    · exact .unreadableVariables (loadSuite_eq_ok_iff.1 hs) hfirst
    · have hload := loadSuite_eq_ok_iff.1 hs
      rcases hsel with ⟨cause, hcause, rfl⟩ | ⟨husable, hnone, rfl⟩
      · rcases Glob.PatternSet.ofTexts_eq_error_iff.1 hcause with
          ⟨pattern, c, hfirst, rfl⟩ | ⟨globs, hglobs, hdepth⟩
        · exact .filter hload henv hfirst
        · exact .depth hload henv hglobs hdepth
      · exact .selection hload henv hne husable hnone
  · intro h
    -- filters that make no set are not none, since no filters make one
    have hnonempty {cause : Glob.SetError} (hc : Glob.PatternSet.ofTexts o.filters = .error cause) :
        o.filters ≠ [] := by
      intro hnil
      rw [hnil] at hc
      cases hc
    generalize hconfig : o.config = config at h
    cases h with
    | unreadable hread => exact .inl (by simp [loadSuite, hread])
    | malformed hread hdecode =>
      refine .inl ?_
      simp only [loadSuite, hread]
      exact Suite.ofYaml_of_malformed hdecode
    | invalid hread hdecode hvalid =>
      refine .inl ?_
      simp only [loadSuite, hread]
      exact Suite.ofYaml_of_invalid hdecode hvalid
    | unreadableVariables hload hfirst =>
      exact .inr ⟨_, loadSuite_eq_ok_iff.2 hload, .inl ⟨_, _, hfirst, rfl⟩⟩
    | filter hload henv hfirst =>
      have hc := Glob.PatternSet.ofTexts_eq_error_iff.2 (.inl ⟨_, _, hfirst, rfl⟩)
      exact .inr ⟨_, loadSuite_eq_ok_iff.2 hload, .inr ⟨henv, hnonempty hc, .inl ⟨_, hc, rfl⟩⟩⟩
    | depth hload henv hglobs hdepth =>
      have hc := Glob.PatternSet.ofTexts_eq_error_iff.2 (.inr ⟨_, hglobs, hdepth⟩)
      exact .inr ⟨_, loadSuite_eq_ok_iff.2 hload, .inr ⟨henv, hnonempty hc, .inl ⟨_, hc, rfl⟩⟩⟩
    | selection hload henv hne husable hnone =>
      exact .inr ⟨_, loadSuite_eq_ok_iff.2 hload, .inr ⟨henv, hne, .inr ⟨husable, hnone, rfl⟩⟩⟩

/-- A run fails exactly where a hindrance stands in its way, and then tells of that; only the texts of
the files that the options name, and the filters, can be one. So two runs that agree on these fail alike,
whatever else is different about the options, the variables, the tools and the layout binary. The schema
is always printed. -/
theorem run_fails_iff (w : World) (o : CommandLine.Options) (startedAt : Instant) (colours : Bool) :
    (∀ m : Machine,
      Execution.run m o startedAt colours = (ofMachine m o).run o startedAt colours) ∧
    (o.printSchema = true → ∃ text, w.run o startedAt colours = .ok ⟨text, 0⟩) ∧
    (o.printSchema = false →
      (∀ f, w.run o startedAt colours = .error f ↔
        Hindrance w.readText o.envFiles o.filters o.config f) ∧
      ∀ (w' : World) (o' : CommandLine.Options) (startedAt' : Instant) (colours' : Bool),
        o'.printSchema = false → o'.config = o.config → o'.envFiles = o.envFiles →
        o'.filters = o.filters →
        (∀ path ∈ o.config.toList ++ o.envFiles, w'.readText path = w.readText path) →
        ∀ f, w'.run o' startedAt' colours' = .error f ↔ w.run o startedAt colours = .error f) := by
  refine ⟨fun m => rfl, fun ho => ⟨Suite.schema.toText, by simp [run, ho, pure, Except.pure]⟩,
    fun ho => ⟨fun f => run_eq_error_iff_hindrance ho, ?_⟩⟩
  intro w' o' startedAt' colours' ho' hconfig henv hfilters hread f
  rw [run_eq_error_iff_hindrance ho', run_eq_error_iff_hindrance ho, hconfig, henv, hfilters]
  exact Hindrance.congr hread

/-- A machine with tools and one without say the same of a filter that no check matches. -/
theorem run_fails_iff_of_unmatched_filter :
    let installed : Machine := { files := Machine.bareFiles, bindings := [("PATH", [0x2F])] }
    let bare : Machine := { files := {}, system := .darwin }
    let o : CommandLine.Options := { filters := ["existence::nothing*"] }
    let o' : CommandLine.Options := { o with dot := some "neato", path := some "", json := true }
    (World.ofMachine bare o).run o ⟨0, 0⟩ false = .error (.nothingSelected o.filters) ∧
      (World.ofMachine installed o').run o' ⟨1, 0⟩ true = .error (.nothingSelected o.filters) := by
  intro installed bare o o'
  obtain ⟨hfails, hsame⟩ := (run_fails_iff (ofMachine bare o) o ⟨0, 0⟩ false).2.2 rfl
  have h := (hfails (.nothingSelected o.filters)).2
    (.selection .builtin (by simp [o]) (by simp [o]) (by decide +kernel) (by decide +kernel))
  exact ⟨h, (hsame (ofMachine installed o') o' ⟨1, 0⟩ true rfl rfl rfl rfl (by simp [o]) _).2 h⟩

end World

end Execution

end SmokeSuite
