import SmokeSuite.SearchPath
import SmokeSuite.Proofs.Text.Lines

namespace SmokeSuite

/-- Whether a path leads to a regular file that can be run. No file has a zero character in its path. -/
def FileTree.LeadsToProgram (t : FileTree) (base : Location) (path : String) : Prop :=
  hasZero path = false ∧ ∃ l content, t.follow base path = .ok (l, .file content true)

theorem FileTree.isExecutable_iff {t : FileTree} {base : Location} {path : String} :
    t.isExecutable base path = true ↔ t.LeadsToProgram base path := by
  rw [isExecutable, LeadsToProgram, Bool.and_eq_true, Bool.not_eq_true']
  refine and_congr_right fun _ => ?_
  cases t.follow base path with
  | error e => simp
  | ok p =>
    obtain ⟨l, entry⟩ := p
    cases entry <;> simp

namespace SearchPath

variable {s : SearchPath} {canRun : String → Bool} {name : String}

/-- The entries of a search path: its text is made of them, with a colon between each two. -/
structure IsMadeOf (s : SearchPath) (entries : List String) : Prop where
  ne_nil : entries ≠ []
  noColon : ∀ entry ∈ entries, ':' ∉ entry.toList
  text : s.text = ":".intercalate entries

theorem exists_isMadeOf (s : SearchPath) : ∃ entries, s.IsMadeOf entries := by
  let parts := Text.partsAt ':' s.text.toList
  refine ⟨parts.map String.ofList, ?_, ?_, ?_⟩
  · intro h
    exact Text.partsAt_ne_nil _ (List.map_eq_nil_iff.1 h)
  · intro entry hentry
    obtain ⟨l, hl, rfl⟩ := List.mem_map.1 hentry
    rw [String.toList_ofList]
    exact Text.notMem_of_mem_partsAt _ l hl
  · have hparts : (parts.map String.ofList).map String.toList = parts := by simp
    rw [← String.toList_inj, String.toList_intercalate, hparts]
    exact (Text.intercalate_partsAt _).symm

theorem directories_of_isMadeOf {entries : List String} (h : s.IsMadeOf entries) :
    s.directories = entries.map s.expandTilde := by
  have hparts : Text.partsAt ':' s.text.toList = entries.map String.toList := by
    rw [h.text, String.toList_intercalate]
    refine Text.partsAt_intercalate ?_ ?_
    · exact mt List.map_eq_nil_iff.1 h.ne_nil
    · exact List.forall_mem_map.2 h.noColon
  rw [directories, hparts, List.map_map]
  exact List.map_congr_left fun entry _ => by simp

/-- Where a name would stand in the directory of an entry. -/
def place (s : SearchPath) (entry name : String) : String := PathText.join (s.expandTilde entry) name

/-- The first place along a search path at which there is something to run. -/
inductive FirstPlace (s : SearchPath) (runs : String → Prop) (name : String) : String → Prop
  | of_entries {before after : List String} {entry : String}
      (hmade : s.IsMadeOf (before ++ entry :: after))
      (hbefore : ∀ e ∈ before, ¬ runs (s.place e name))
      (hentry : runs (s.place entry name)) :
      FirstPlace s runs name (s.place entry name)

theorem find_of_isMadeOf {entries : List String} (hname : PathText.isCompound name = false)
    (h : s.IsMadeOf entries) :
    s.find canRun name = (entries.find? fun e => canRun (s.place e name)).map (s.place · name) := by
  have hcandidates : s.candidates name = entries.map (s.place · name) := by
    rw [candidates, hname, directories_of_isMadeOf h, List.map_map]
    rfl
  rw [find, hcandidates, List.find?_map]
  rfl

theorem find_eq_some_iff {runs : String → Prop} (hruns : ∀ path, canRun path = true ↔ runs path)
    (hname : PathText.isCompound name = false) {path : String} :
    s.find canRun name = some path ↔ s.FirstPlace runs name path := by
  constructor
  · intro hfind
    obtain ⟨entries, hmade⟩ := s.exists_isMadeOf
    rw [find_of_isMadeOf hname hmade] at hfind
    obtain ⟨entry, hentry, rfl⟩ := Option.map_eq_some_iff.1 hfind
    obtain ⟨hcan, before, after, rfl, hbefore⟩ := List.find?_eq_some_iff_append.1 hentry
    refine .of_entries hmade (fun e he hplace => ?_) ((hruns _).1 hcan)
    simpa [(hruns _).2 hplace] using hbefore e he
  · rintro ⟨hmade, hbefore, hentry⟩
    rw [find_of_isMadeOf hname hmade]
    refine Option.map_eq_some_iff.2
      ⟨_, List.find?_eq_some_iff_append.2 ⟨(hruns _).2 hentry, _, _, rfl, ?_⟩, rfl⟩
    intro e he
    simpa using mt (hruns _).1 (hbefore e he)

theorem canRun_of_find {path : String} (h : s.find canRun name = some path) : canRun path = true :=
  List.find?_some h

theorem slash_mem_join {base : String} (hbase : base ≠ "") (name : String) :
    '/' ∈ (PathText.join base name).toList := by
  unfold PathText.join
  split
  · rename_i h
    have habsolute : FileTree.isAbsolute name = true := by simpa [hbase] using h
    cases hn : name.toList with
    | nil => simp [FileTree.isAbsolute, hn] at habsolute
    | cons c cs =>
      have hc : c = '/' := by simpa [FileTree.isAbsolute, hn] using habsolute
      simp [hc]
  · split
    · rename_i h
      have hlast : base.toList.getLast? = some '/' := by simpa using h
      simp [List.mem_of_getLast? hlast]
    · simp

theorem join_ne_empty {base : String} (hbase : base ≠ "") (name : String) : PathText.join base name ≠ "" := by
  intro h
  have hmem := slash_mem_join hbase name
  simp [h] at hmem

theorem expandTilde_ne_empty (hhome : s.home ≠ some "") {entry : String} (h : entry ≠ "") :
    s.expandTilde entry ≠ "" := by
  have hfold : ∀ (names : List String) (base : String), base ≠ "" → names.foldl PathText.join base ≠ "" := by
    intro names
    induction names with
    | nil => exact fun _ hbase => hbase
    | cons n ns ih => exact fun base hbase => ih _ (join_ne_empty hbase n)
  unfold expandTilde
  split
  · rename_i rest home hparts hsome
    exact hfold rest home fun hempty => hhome (hsome.trans (congrArg some hempty))
  · exact h

/-- Only through an empty entry is a name found at a path without a slash, which is then the name. -/
theorem eq_name_of_no_slash {runs : String → Prop} (hhome : s.home ≠ some "") {path : String}
    (h : s.FirstPlace runs name path) (hslash : '/' ∉ path.toList) :
    path = name ∧ ∃ entries, s.IsMadeOf entries ∧ "" ∈ entries := by
  obtain ⟨hmade, -, -⟩ := h
  rename_i before after entry
  have hempty : s.expandTilde entry = "" :=
    Decidable.byContradiction fun hne => hslash (slash_mem_join hne name)
  have hentry : entry = "" :=
    Decidable.byContradiction fun hne => expandTilde_ne_empty hhome hne hempty
  refine ⟨?_, _, hmade, by simp [hentry]⟩
  rw [place, hempty, PathText.join]
  simp

theorem directories_append (s : SearchPath) (p q : String) :
    directories { s with text := p ++ ":" ++ q } =
      directories { s with text := p } ++ directories { s with text := q } := by
  have htext : (p ++ ":" ++ q).toList = p.toList ++ ':' :: q.toList := by
    rw [String.toList_append, String.toList_append, List.append_assoc]
    rfl
  simp only [directories, htext, Text.partsAt_append, List.map_append]
  rfl

/-- A search path behind another one counts where that finds nothing. -/
theorem find_append (s : SearchPath) (canRun : String → Bool) (p q name : String) :
    find { s with text := p ++ ":" ++ q } canRun name =
      (find { s with text := p } canRun name).or (find { s with text := q } canRun name) := by
  by_cases hname : PathText.isCompound name = true
  · -- such a name is not looked for along the search path at all
    have hsame (t : String) : find { s with text := t } canRun name = s.find canRun name := by
      simp only [find, candidates, hname, Bool.not_true, Bool.false_eq_true, if_false]
    rw [hsame (p ++ ":" ++ q), hsame p, hsame q]
    cases s.find canRun name <;> rfl
  · have hsplit : candidates { s with text := p ++ ":" ++ q } name =
        candidates { s with text := p } name ++ candidates { s with text := q } name := by
      simp only [candidates, hname, Bool.not_false, if_true, directories_append, List.map_append]
    rw [find, hsplit, List.find?_append]
    rfl

end SearchPath

end SmokeSuite
