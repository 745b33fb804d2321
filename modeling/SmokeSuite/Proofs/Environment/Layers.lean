import SmokeSuite.Proofs.Environment.Merging

namespace SmokeSuite

namespace ProcessVariables

/-- A variable is set to a text that is not empty. -/
def Gives (vs : ProcessVariables) (name text : String) : Prop :=
  vs.lookup name = some (Text.Utf8.encode text.toList) ∧ text ≠ ""

/-- A name that a variable can have. -/
def IsName (name : String) : Prop :=
  (name == "" || name.toList.contains '=' || FileTree.hasZero name) = false

/-- The variables without one of them. -/
def unset (vs : ProcessVariables) (name : String) : ProcessVariables := vs.filter (·.1 != name)

theorem lookup_unset_self (vs : ProcessVariables) (name : String) : (vs.unset name).lookup name = none := by
  rw [List.lookup_eq_none_iff]
  intro v hv
  rw [bne_comm]
  exact (List.mem_filter.1 hv).2

theorem lookup_unset_of_ne {name n : String} (h : n ≠ name) (vs : ProcessVariables) :
    (vs.unset name).lookup n = vs.lookup n := by
  induction vs with
  | nil => rfl
  | cons v vs ih =>
    obtain ⟨m, value⟩ := v
    rw [unset] at ih
    by_cases hm : m = name
    · subst hm
      have hno : (n == m) = false := beq_false_of_ne h
      rw [unset, List.filter_cons_of_neg (by simp), ih, List.lookup_cons, hno]
    · rw [unset, List.filter_cons_of_pos (by simpa using hm), List.lookup_cons, List.lookup_cons, ih]

end ProcessVariables

namespace Snapshot

variable {process : ProcessVariables} {name text : String}

theorem nonEmpty_eq_some_iff {v : Option String} :
    nonEmpty v = some text ↔ v = some text ∧ text ≠ "" := by
  simp [nonEmpty, Option.filter_eq_some_iff]

theorem nonEmpty_text?_eq_some_iff (hname : ProcessVariables.IsName name) :
    nonEmpty (process.text? name) = some text ↔ process.Gives name text := by
  rw [nonEmpty_eq_some_iff, ProcessVariables.text?, if_neg (by rw [hname]; decide), Option.map_bind,
    Option.bind_eq_some_iff]
  simp only [Function.comp_apply, Text.Utf8.map_ofList_decode?_eq_some_iff, exists_eq_right]
  rfl

theorem nonEmpty_text?_eq_none_iff (hname : ProcessVariables.IsName name) :
    nonEmpty (process.text? name) = none ↔ ∀ text, ¬ process.Gives name text := by
  simp only [← nonEmpty_text?_eq_some_iff hname, Option.eq_none_iff_forall_ne_some]

/-- How a variable is found: the first layer counts that gives a value, and what the files define last
may be that there is none. -/
inductive Resolves (process : ProcessVariables) (files : Definitions) (fallback : Option String)
    (name : String) : Option String → Prop
  | process {text : String} (h : process.Gives name text) :
      Resolves process files fallback name (some text)
  | file {text : String} (hp : ∀ t, ¬ process.Gives name t) (hf : files.IsLast name text)
      (hne : text ≠ "") : Resolves process files fallback name (some text)
  | masked (hp : ∀ t, ¬ process.Gives name t) (hf : files.IsLast name "") :
      Resolves process files fallback name fallback
  | unset (hp : ∀ t, ¬ process.Gives name t) (hf : ∀ d ∈ files, d.1 ≠ name) :
      Resolves process files fallback name fallback

theorem resolves_iff {files : Definitions} {fallback o : Option String}
    (hname : ProcessVariables.IsName name) :
    (nonEmpty (lookupVariable process files name)).or fallback = o ↔
      Resolves process files fallback name o := by
  unfold lookupVariable
  constructor
  · rintro rfl
    cases hp : nonEmpty (process.text? name) with
    | some text =>
      have hgives := (nonEmpty_text?_eq_some_iff hname).1 hp
      rw [Option.some_or, nonEmpty_eq_some_iff.2 ⟨rfl, hgives.2⟩, Option.some_or]
      exact .process hgives
    | none =>
      -- the process gives nothing, so the last definition decides, even to say that there is no value
      have hno := (nonEmpty_text?_eq_none_iff hname).1 hp
      rw [Option.none_or]
      cases hf : files.get? name with
      | none => exact .unset hno (Definitions.get?_eq_none_iff.1 hf)
      | some text =>
        have hlast := Definitions.get?_eq_some_iff.1 hf
        by_cases hne : text = ""
        · subst hne
          exact .masked hno hlast
        · rw [nonEmpty_eq_some_iff.2 ⟨rfl, hne⟩]
          exact .file hno hlast hne
  · intro h
    cases h with
    | process h =>
      rw [(nonEmpty_text?_eq_some_iff hname).2 h, Option.some_or, nonEmpty_eq_some_iff.2 ⟨rfl, h.2⟩,
        Option.some_or]
    | file hp hf hne =>
      rw [(nonEmpty_text?_eq_none_iff hname).2 hp, Option.none_or, Definitions.get?_eq_some_iff.2 hf,
        nonEmpty_eq_some_iff.2 ⟨rfl, hne⟩, Option.some_or]
    | masked hp hf =>
      rw [(nonEmpty_text?_eq_none_iff hname).2 hp, Option.none_or, Definitions.get?_eq_some_iff.2 hf]
      rfl
    | unset hp hf =>
      rw [(nonEmpty_text?_eq_none_iff hname).2 hp, Option.none_or, Definitions.get?_eq_none_iff.2 hf]
      rfl

/-- A value that is empty or no text is as good as none. -/
theorem not_gives {bytes : List UInt8} (h : process.lookup name = some bytes)
    (hbad : bytes = [] ∨ ∀ text : String, bytes ≠ Text.Utf8.encode text.toList) (text : String) :
    ¬ process.Gives name text := by
  rintro ⟨hlookup, hne⟩
  obtain rfl := Option.some.inj (h.symm.trans hlookup)
  rcases hbad with hempty | hno
  · have hdecode := Text.Utf8.decode?_eq_some_iff.2 hempty.symm
    have hnil : Text.Utf8.decode? [] = some [] := Text.Utf8.decode?_eq_some_iff.2 rfl
    have htext : [] = text.toList := Option.some.inj (hnil.symm.trans hdecode)
    exact hne (String.toList_eq_nil_iff.1 htext.symm)
  · exact hno text rfl

theorem nonEmpty_text?_unset (hno : ∀ text, ¬ process.Gives name text) (n : String) :
    nonEmpty ((process.unset name).text? n) = nonEmpty (process.text? n) := by
  by_cases hn : n = name
  · subst hn
    by_cases hname : ProcessVariables.IsName n
    · -- one of them has no value, the other none that counts
      have hunset (text : String) : ¬ (process.unset n).Gives n text := by
        rintro ⟨hlookup, -⟩
        rw [ProcessVariables.lookup_unset_self] at hlookup
        cases hlookup
      rw [(nonEmpty_text?_eq_none_iff hname).2 hunset, (nonEmpty_text?_eq_none_iff hname).2 hno]
    · rw [ProcessVariables.IsName, Bool.not_eq_false] at hname
      rw [ProcessVariables.text?, if_pos hname, ProcessVariables.text?, if_pos hname]
  · rw [ProcessVariables.text?, ProcessVariables.lookup_unset_of_ne hn, ← ProcessVariables.text?]

theorem any_filter_nonEmpty (v : Option String) (jobs : List String) :
    (nonEmpty v).any (jobs.filter (· ≠ "")).contains = (nonEmpty v).any jobs.contains := by
  cases hv : nonEmpty v with
  | none => rfl
  | some job =>
    have hne : job ≠ "" := (nonEmpty_eq_some_iff.1 hv).2
    simp [hne]

theorem asan_iff {lookup : String → Option String} {hostOsId : Option String} {system : HostSystem}
    {asanJobs : List String} :
    (ofLookup lookup hostOsId system asanJobs).asan = true ↔
      ∃ job ∈ asanJobs, (ofLookup lookup hostOsId system asanJobs).jobName = some job := by
  simp only [ofLookup]
  cases nonEmpty (lookup jobNameVariable) <;> simp

/-- Each variable of a snapshot is the process's if that is text and not empty, and otherwise what the
dotenv files define last if that is not empty. Only the name of the operating system has the host to fall
back on. A job counts as one with the address sanitizer by the name so found, and no empty name does. -/
theorem ofLookup_layers (process : ProcessVariables) (ms : List Definitions.Merging)
    (hostOsId : Option String) (system : HostSystem) (asanJobs : List String) :
    let snapshot (process : ProcessVariables) (asanJobs : List String) : Snapshot :=
      ofLookup (lookupVariable process (Definitions.replay ms)) hostOsId system asanJobs
    let s := snapshot process asanJobs
    (∀ o, s.buildSystem = o ↔ Resolves process (Definitions.definedBy ms) none buildSystemVariable o) ∧
    (∀ o, s.jobName = o ↔ Resolves process (Definitions.definedBy ms) none jobNameVariable o) ∧
    (∀ o, s.version = o ↔ Resolves process (Definitions.definedBy ms) none versionVariable o) ∧
    (∀ o, s.platform = o ↔ Resolves process (Definitions.definedBy ms) none platformVariable o) ∧
    (∀ o, s.osId = o ↔ Resolves process (Definitions.definedBy ms) hostOsId osIdVariable o) ∧
    (s.asan = true ↔ ∃ job ∈ asanJobs, s.jobName = some job) ∧
    (∀ name bytes, process.lookup name = some bytes →
      (bytes = [] ∨ ∀ text : String, bytes ≠ Text.Utf8.encode text.toList) →
      snapshot (process.unset name) asanJobs = s) ∧
    snapshot process (asanJobs.filter (· ≠ "")) = s := by
  intro snapshot s
  have hfield {name : String} (hname : ProcessVariables.IsName name) (o : Option String) :
      nonEmpty (lookupVariable process (Definitions.replay ms) name) = o ↔
        Resolves process (Definitions.definedBy ms) none name o := by
    rw [← resolves_iff hname, Option.or_none, Definitions.replay_eq]
  refine ⟨hfield rfl, hfield rfl, hfield rfl, hfield rfl, fun o => ?_, asan_iff, ?_, ?_⟩
  · have hname : ProcessVariables.IsName osIdVariable := rfl
    rw [← resolves_iff hname, ← Definitions.replay_eq]
    rfl
  · intro name bytes hvalue hbad
    have hlookup : lookupVariable (process.unset name) (Definitions.replay ms) =
        lookupVariable process (Definitions.replay ms) := by
      funext n
      rw [lookupVariable, nonEmpty_text?_unset (not_gives hvalue hbad), ← lookupVariable]
    simp only [s, snapshot, hlookup]
  · have hasan := any_filter_nonEmpty
      (lookupVariable process (Definitions.replay ms) jobNameVariable) asanJobs
    simp only [s, snapshot, ofLookup, hasan]

/-- A job whose name is empty in the process has the name that the files give it. The version is unknown,
since the last definition of it is empty. -/
theorem ofLookup_layers_of_empty_variable :
    let process : ProcessVariables := [(jobNameVariable, [])]
    let readText : String → Except TextError String := fun _ =>
      .ok "CI_JOB_NAME=sanitized\nGV_VERSION=12\nGV_VERSION=\n"
    let ms : List Definitions.Merging := [⟨readText, ["ci.env"]⟩]
    let snapshot (process : ProcessVariables) : Snapshot :=
      ofLookup (lookupVariable process (Definitions.replay ms)) none .linux ["", "sanitized"]
    process.lookup jobNameVariable = some [] ∧
      snapshot (process.unset jobNameVariable) = snapshot process ∧
      (snapshot process).jobName = some "sanitized" ∧ (snapshot process).asan = true ∧
      (snapshot process).version = none := by
  intro process readText ms snapshot
  have hempty : process.lookup jobNameVariable = some [] := rfl
  have hunset (text : String) : ¬ process.Gives versionVariable text := nofun
  obtain ⟨-, hjob, hversion, -, -, hasan, hmask, -⟩ :=
    ofLookup_layers process ms none .linux ["", "sanitized"]
  have hname : (snapshot process).jobName = some "sanitized" :=
    (hjob _).2 (.file (not_gives hempty (.inl rfl))
      ⟨[], [(versionVariable, "12"), (versionVariable, "")], by decide +kernel, by decide⟩ (by decide))
  have hlast : (snapshot process).version = none :=
    (hversion _).2 (.masked hunset
      ⟨[(jobNameVariable, "sanitized"), (versionVariable, "12")], [], by decide +kernel, by decide⟩)
  exact ⟨hempty, hmask _ _ hempty (.inl rfl), hname, hasan.2 ⟨_, by simp, hname⟩, hlast⟩

end Snapshot

end SmokeSuite
