import SmokeSuite.Proofs.Suite.Decoding
import SmokeSuite.Suite.Record
import SmokeSuite.Failure

namespace SmokeSuite

open Yaml (Decoder Reads Shows ShowsItems ShowsMembers)
open Yaml.Decoder (Gives)

/-- The fields that may be left out of their records, with what they then are. -/
def Suite.defaults : List (String × Json) :=
  [("exclusions", .array []), ("formats", .array []), ("asan_jobs", .array []),
    ("dot", .string defaultDot), ("when", .object []), ("issues", .array []),
    ("source", .string defaultSource), ("issue", .null), ("xfail", .null), ("strict", .bool true)]

mutual

/-- A value, and the same value without some of the fields that hold their defaults. -/
inductive Abridged : Json → Json → Prop
  | null : Abridged .null .null
  | bool (b : Bool) : Abridged (.bool b) (.bool b)
  | number (d : Decimal) : Abridged (.number d) (.number d)
  | string (s : String) : Abridged (.string s) (.string s)
  | array {js js' : List Json} (h : AbridgedItems js js') : Abridged (.array js) (.array js')
  | object {ms ms' : List (String × Json)} (h : AbridgedMembers ms ms') :
      Abridged (.object ms) (.object ms')

inductive AbridgedItems : List Json → List Json → Prop
  | nil : AbridgedItems [] []
  | cons {j j' : Json} {js js' : List Json} (h : Abridged j j') (hs : AbridgedItems js js') :
      AbridgedItems (j :: js) (j' :: js')

inductive AbridgedMembers : List (String × Json) → List (String × Json) → Prop
  | nil : AbridgedMembers [] []
  | keep {name : String} {j j' : Json} {ms ms' : List (String × Json)} (h : Abridged j j')
      (hs : AbridgedMembers ms ms') : AbridgedMembers ((name, j) :: ms) ((name, j') :: ms')
  | drop {name : String} {j : Json} {ms ms' : List (String × Json)}
      (h : (name, j) ∈ Suite.defaults) (hs : AbridgedMembers ms ms') :
      AbridgedMembers ((name, j) :: ms) ms'

end

mutual

theorem Abridged.refl : ∀ j : Json, Abridged j j
  | .null => .null
  | .bool b => .bool b
  | .number d => .number d
  | .string s => .string s
  | .array js => .array (AbridgedItems.refl js)
  | .object ms => .object (AbridgedMembers.refl ms)

theorem AbridgedItems.refl : ∀ js : List Json, AbridgedItems js js
  | [] => .nil
  | j :: js => .cons (Abridged.refl j) (AbridgedItems.refl js)

theorem AbridgedMembers.refl : ∀ ms : List (String × Json), AbridgedMembers ms ms
  | [] => .nil
  | (_, j) :: ms => .keep (Abridged.refl j) (AbridgedMembers.refl ms)

end

theorem Abridged.ne_null {j j' : Json} (h : Abridged j j') (hj : j ≠ .null) : j' ≠ .null := by
  cases h with
  | null => exact absurd rfl hj
  | _ => nofun

namespace AbridgedMembers

variable {ms ms' : List (String × Json)} {name : String} {j j' : Json}

theorem exists_of_mem (h : AbridgedMembers ms ms') (hm : (name, j') ∈ ms') :
    ∃ j, (name, j) ∈ ms ∧ Abridged j j' := by
  induction ms generalizing ms' with
  | nil =>
    cases h
    cases hm
  | cons m ms ih =>
    cases h with
    | keep hj hs =>
      rcases List.mem_cons.1 hm with he | hm
      · cases he
        exact ⟨_, List.mem_cons_self, hj⟩
      · obtain ⟨i, hi, ha⟩ := ih hs hm
        exact ⟨i, List.mem_cons_of_mem _ hi, ha⟩
    | drop _ hs =>
      obtain ⟨i, hi, ha⟩ := ih hs hm
      exact ⟨i, List.mem_cons_of_mem _ hi, ha⟩

theorem mem_defaults (h : AbridgedMembers ms ms') (hm : (name, j) ∈ ms)
    (hn : name ∉ ms'.map (·.1)) : (name, j) ∈ Suite.defaults := by
  induction ms generalizing ms' with
  | nil => cases hm
  | cons m ms ih =>
    cases h with
    | keep hj hs =>
      rw [List.map_cons, List.mem_cons, not_or] at hn
      rcases List.mem_cons.1 hm with he | hm
      · cases he
        exact absurd rfl hn.1
      · exact ih hs hm hn.2
    | drop hd hs =>
      rcases List.mem_cons.1 hm with he | hm
      · cases he
        exact hd
      · exact ih hs hm hn

theorem sublist (h : AbridgedMembers ms ms') : (ms'.map (·.1)).Sublist (ms.map (·.1)) := by
  induction ms generalizing ms' with
  | nil =>
    cases h
    exact .slnil
  | cons m ms ih =>
    cases h with
    | keep hj hs => exact (ih hs).cons_cons _
    | drop hd hs => exact (ih hs).cons _

theorem forall_mem {p : String → Prop} (h : AbridgedMembers ms ms')
    (hp : ∀ name ∈ ms.map (·.1), p name) : ∀ m ∈ ms', p m.1 := by
  intro m hm
  obtain ⟨j, hj, -⟩ := h.exists_of_mem hm
  exact hp _ (List.mem_map.2 ⟨_, hj, rfl⟩)

end AbridgedMembers

mutual

theorem Abridged.exists_shows : ∀ {j j' : Json}, Abridged j j' → (∃ t, Shows t j) → ∃ t, Shows t j'
  | _, _, .null, ht => ht
  | _, _, .bool _, ht => ht
  | _, _, .number _, ht => ht
  | _, _, .string _, ht => ht
  | _, _, .array h, ⟨_, .sequence hts⟩ =>
    let ⟨_, hts'⟩ := h.exists_shows hts
    ⟨.sequence default none _, .sequence hts'⟩
  | _, _, .object h, ⟨_, .mapping hes hnames⟩ =>
    let ⟨_, hes'⟩ := h.exists_shows hes
    ⟨.mapping default none _, .mapping hes' (h.sublist.nodup hnames)⟩

theorem AbridgedItems.exists_shows : ∀ {js js' : List Json} {ts : List Yaml.Tree},
    AbridgedItems js js' → ShowsItems ts js → ∃ ts', ShowsItems ts' js'
  | _, _, _, .nil, .nil => ⟨[], .nil⟩
  | _, _, _, .cons h hs, .cons ht hts =>
    let ⟨_, ht'⟩ := h.exists_shows ⟨_, ht⟩
    let ⟨_, hts'⟩ := hs.exists_shows hts
    ⟨_, .cons ht' hts'⟩

theorem AbridgedMembers.exists_shows : ∀ {ms ms' : List (String × Json)}
    {es : List (Option String × Yaml.Tree × Yaml.Tree)},
    AbridgedMembers ms ms' → ShowsMembers es ms → ∃ es', ShowsMembers es' ms'
  | _, _, _, .nil, .nil => ⟨[], .nil⟩
  | _, _, _, .keep h hs, .cons hkey ht hes =>
    let ⟨_, ht'⟩ := h.exists_shows ⟨_, ht⟩
    let ⟨_, hes'⟩ := hs.exists_shows hes
    ⟨(none, _, _) :: _, .cons hkey ht' hes'⟩
  | _, _, _, .drop _ hs, .cons _ _ hes => hs.exists_shows hes

end

namespace Abridged

variable {j' : Json}

theorem reads_string {s : String} (h : Abridged (.string s) j') : Reads Decoder.string j' s := by
  cases h
  exact .string s

theorem reads_bool {b : Bool} (h : Abridged (.bool b) j') : Reads Decoder.bool j' b := by
  cases h
  exact .bool b

theorem reads_list {α : Type} {d : Decoder α} {f : α → Json} {xs : List α}
    (h : Abridged (.array (xs.map f)) j') (hread : ∀ x j', Abridged (f x) j' → Reads d j' x) :
    Reads (.list d) j' xs := by
  cases h with
  | @array _ js' h =>
    refine .list ?_
    induction xs generalizing js' with
    | nil =>
      cases h
      exact .nil
    | cons x xs ih =>
      cases h with
      | cons hx hxs => exact .cons (hread x _ hx) (ih hxs)

theorem reads_word32 {n : UInt32} (h : Abridged (.nat n.toNat) j') : Reads .word32 j' n := by
  cases h
  have hr := Reads.word32 n.toNat_lt
  rwa [UInt32.ofNat_toNat] at hr

/-- A value that is null where there is none. -/
theorem reads_optional {α : Type} {d : Decoder α} {x : Option α} (f : α → Json)
    (h : Abridged ((x.map f).getD .null) j') (hnull : ∀ y, f y ≠ .null)
    (hread : ∀ y j', Abridged (f y) j' → Reads d j' y) : Reads (.optional d) j' x := by
  cases x with
  | none =>
    cases h
    exact .null
  | some y => exact .some (h.ne_null (hnull y)) (hread y j' h)

theorem reads_strings {ss : List String} (h : Abridged (.strings ss) j') :
    Reads (.list .string) j' ss :=
  reads_list h fun _ _ => reads_string

theorem reads_issues {issues : List UInt32} (h : Abridged (issuesJson issues) j') :
    Reads (.list .word32) j' issues :=
  reads_list h fun _ _ => reads_word32

end Abridged

namespace AbridgedMembers

variable {ms ms' : List (String × Json)} {name : String}

/-- A field that is always written gives what its value is read as, or its default once it is left out. -/
theorem gives {α : Type} {j : Json} {d : Decoder α} {default : Option α} {x : α}
    (h : AbridgedMembers ms ms') (hmem : ∀ i, (name, i) ∈ ms ↔ i = j)
    (hread : ∀ j', Abridged j j' → Reads d j' x)
    (hdefault : (name, j) ∈ Suite.defaults → default = some x) : Gives ms' name d default x where
  read j' hj' := by
    obtain ⟨i, hi, ha⟩ := h.exists_of_mem hj'
    obtain rfl := (hmem i).1 hi
    exact hread j' ha
  absent hn := hdefault (h.mem_defaults ((hmem j).2 rfl) hn)

/-- A field that is written only where it is set gives what it is set to, and nothing else. -/
theorem gives_optional {α : Type} {d : Decoder α} {x : Option α} (f : α → Json)
    (h : AbridgedMembers ms ms') (hmem : ∀ i, (name, i) ∈ ms ↔ ∃ y, x = some y ∧ f y = i)
    (hname : ∀ i, (name, i) ∉ Suite.defaults)
    (hnull : ∀ y, f y ≠ .null) (hread : ∀ y j', Abridged (f y) j' → Reads d j' y) :
    Gives ms' name (.optional d) (some none) x where
  read j' hj' := by
    obtain ⟨i, hi, ha⟩ := h.exists_of_mem hj'
    obtain ⟨y, rfl, rfl⟩ := (hmem i).1 hi
    exact .some (ha.ne_null (hnull y)) (hread y j' ha)
  absent hn := by
    cases x with
    | none => rfl
    | some y => exact absurd (h.mem_defaults ((hmem _).2 ⟨y, rfl, rfl⟩) hn) (hname _)

end AbridgedMembers

theorem Condition.toJson_eq_nil_iff {c : Condition} : c.toJson = .object [] ↔ c = {} := by
  constructor
  · intro h
    obtain ⟨osId, buildSystem, system, notSystem, asan, platform⟩ := c
    simp [toJson, Json.member] at h
    simp [h]
  · rintro rfl
    rfl

theorem HostSystem.reads_abridged (y : HostSystem) (j' : Json) (h : Abridged (.string y.name) j') :
    Reads decoder j' y := by
  cases h
  exact y.reads

theorem Condition.reads_abridged (c : Condition) {j' : Json} (h : Abridged c.toJson j') :
    Reads decoder j' c := by
  cases h with
  | object h =>
    refine IsGiven.reads
      { known := h.forall_mem ?_
        osId := h.gives_optional .string ?_ ?_ ?_ fun _ _ ha => ha.reads_string
        buildSystem := h.gives_optional .string ?_ ?_ ?_ fun _ _ ha => ha.reads_string
        system := h.gives_optional (fun y => .string y.name) ?_ ?_ ?_ HostSystem.reads_abridged
        notSystem := h.gives_optional (fun y => .string y.name) ?_ ?_ ?_ HostSystem.reads_abridged
        asan := h.gives_optional .bool ?_ ?_ ?_ fun _ _ ha => ha.reads_bool
        platform := h.gives_optional .string ?_ ?_ ?_ fun _ _ ha => ha.reads_string }
    · simp [Json.member, fields, Decoder.field, or_imp, forall_and]
    all_goals simp [Json.member, Suite.defaults]

theorem Exclusion.reads_abridged (x : Exclusion) {j' : Json} (h : Abridged x.toJson j') :
    Reads decoder j' x := by
  cases h with
  | object h =>
    refine IsGiven.reads
      { known := h.forall_mem (by simp [fields, Decoder.field])
        condition := h.gives (by simp) (fun _ ha => x.condition.reads_abridged ha) fun hd => ?_
        tools := h.gives (by simp) (fun _ ha => ha.reads_strings) (by simp [Suite.defaults])
        issues := h.gives (by simp) (fun _ ha => ha.reads_issues) fun hd => ?_
        reason := h.gives (by simp) (fun _ ha => ha.reads_string) (by simp [Suite.defaults]) }
    · rw [show x.condition = {} by simpa [Suite.defaults, Condition.toJson_eq_nil_iff] using hd]
    · rw [show x.issues = [] by simpa [Suite.defaults, issuesJson] using hd]

theorem ExpectedFailure.reads_abridged (x : ExpectedFailure) {j' : Json} (h : Abridged x.toJson j') :
    Reads decoder j' x := by
  cases h with
  | object h =>
    refine IsGiven.reads
      { known := h.forall_mem (by simp [fields, Decoder.field])
        condition := h.gives (by simp) (fun _ ha => x.condition.reads_abridged ha) fun hd => ?_
        reason := h.gives (by simp) (fun _ ha => ha.reads_string) (by simp [Suite.defaults])
        strict := h.gives (by simp) (fun _ ha => ha.reads_bool) fun hd => ?_ }
    · rw [show x.condition = {} by simpa [Suite.defaults, Condition.toJson_eq_nil_iff] using hd]
    · rw [show x.strict = true by simpa [Suite.defaults] using hd]

theorem FormatTarget.reads_abridged (t : FormatTarget) {j' : Json} (h : Abridged t.toJson j') :
    Reads decoder j' t := by
  cases h with
  | object h =>
    refine IsGiven.reads
      { known := h.forall_mem (by simp [fields, Decoder.field])
        format := h.gives (by simp) (fun _ ha => ha.reads_string) (by simp [Suite.defaults])
        source := h.gives (by simp) (fun _ ha => ha.reads_string) fun hd => ?_
        issue := h.gives (by simp) (fun _ ha => ha.reads_optional (fun n : UInt32 => .nat n.toNat)
          (by simp [Json.nat]) fun _ _ ha => ha.reads_word32) fun hd => ?_
        xfail := h.gives (by simp) (fun _ ha => ha.reads_optional ExpectedFailure.toJson
          (by simp [ExpectedFailure.toJson]) fun x _ ha => x.reads_abridged ha) fun hd => ?_ }
    · rw [show t.source = defaultSource by simpa [Suite.defaults] using hd]
    · cases hi : t.issue with
      | none => rfl
      | some n => simp [Suite.defaults, hi, Json.nat] at hd
    · cases hx : t.xfail with
      | none => rfl
      | some x => simp [Suite.defaults, hx, ExpectedFailure.toJson] at hd

section Existence

open Yaml (exists_shows_null exists_shows_bool exists_shows_nat exists_shows_string exists_shows_array
  exists_shows_object)

theorem Json.exists_shows_strings (ss : List String) : ∃ t, Shows t (.strings ss) :=
  exists_shows_array (List.forall_mem_map.2 fun s _ => exists_shows_string s)

/-- What a condition asks for is written in one order. -/
theorem Condition.sublist_memberNames (c : Condition) {ms : List (String × Json)}
    (h : c.toJson = .object ms) : (ms.map (·.1)).Sublist
      ["os_id", "build_system", "system", "not_system", "asan", "project_platform"] := by
  have hmember (name : String) (j : Option Json) :
      ((Json.member name j).map (·.1)).Sublist [name] := by
    cases j <;> simp [Json.member]
  obtain rfl := Json.object.inj h
  simp only [List.map_append]
  exact (((((hmember _ _).append (hmember _ _)).append (hmember _ _)).append (hmember _ _)).append
    (hmember _ _)).append (hmember _ _)

theorem Condition.exists_shows_toJson (c : Condition) : ∃ t, Shows t c.toJson := by
  refine exists_shows_object ?_ ?_
  · simp [Json.member, or_imp, forall_and, exists_shows_string, exists_shows_bool]
  · exact (c.sublist_memberNames rfl).nodup (by simp)

theorem Exclusion.exists_shows_toJson (x : Exclusion) : ∃ t, Shows t x.toJson := by
  have hissues : ∃ t, Shows t (issuesJson x.issues) :=
    exists_shows_array (List.forall_mem_map.2 fun n _ => exists_shows_nat n.toNat)
  refine exists_shows_object ?_ (by simp)
  simp [x.condition.exists_shows_toJson, Json.exists_shows_strings, hissues, exists_shows_string]

theorem ExpectedFailure.exists_shows_toJson (x : ExpectedFailure) : ∃ t, Shows t x.toJson := by
  refine exists_shows_object ?_ (by simp)
  simp [x.condition.exists_shows_toJson, exists_shows_string, exists_shows_bool]

theorem FormatTarget.exists_shows_toJson (t : FormatTarget) : ∃ u, Shows u t.toJson := by
  have hissue : ∃ u, Shows u ((t.issue.map fun n => Json.nat n.toNat).getD .null) := by
    cases t.issue with
    | none => exact exists_shows_null
    | some n => exact exists_shows_nat n.toNat
  have hxfail : ∃ u, Shows u ((t.xfail.map ExpectedFailure.toJson).getD .null) := by
    cases t.xfail with
    | none => exact exists_shows_null
    | some x => exact x.exists_shows_toJson
  refine exists_shows_object ?_ (by simp)
  simp [exists_shows_string, hissue, hxfail]

theorem Suite.exists_shows_toJson (s : Suite) : ∃ t, Shows t s.toJson := by
  have hexclusions : ∃ t, Shows t (.array (s.exclusions.map Exclusion.toJson)) :=
    exists_shows_array (List.forall_mem_map.2 fun x _ => x.exists_shows_toJson)
  have hformats : ∃ t, Shows t (.array (s.formats.map FormatTarget.toJson)) :=
    exists_shows_array (List.forall_mem_map.2 fun x _ => x.exists_shows_toJson)
  refine exists_shows_object ?_ (by simp)
  simp [Json.exists_shows_strings, exists_shows_string, hexclusions, hformats]

end Existence

namespace Suite

theorem reads_abridged (s : Suite) {j' : Json} (h : Abridged s.toJson j') :
    Reads decoder j' s := by
  cases h with
  | object h =>
    refine IsGiven.reads
      { known := h.forall_mem (by simp [fields, Decoder.field])
        tools := h.gives (by simp) (fun _ ha => ha.reads_strings) (by simp [defaults])
        exclusions := h.gives (by simp)
          (fun _ ha => ha.reads_list fun x _ ha => x.reads_abridged ha) fun hd => ?_
        formats := h.gives (by simp)
          (fun _ ha => ha.reads_list fun t _ ha => t.reads_abridged ha) fun hd => ?_
        asanJobs := h.gives (by simp) (fun _ ha => ha.reads_strings) fun hd => ?_
        dot := h.gives (by simp) (fun _ ha => ha.reads_string) fun hd => ?_ }
    · rw [show s.exclusions = [] by simpa [defaults] using hd]
    · rw [show s.formats = [] by simpa [defaults] using hd]
    · rw [show s.asanJobs = [] by simpa [defaults, Json.strings] using hd]
    · rw [show s.dot = defaultDot by simpa [defaults] using hd]

/-- The key and the item of a mapping whose one entry is a list of one plain text. -/
def plainEntry? : Yaml.Tree → Option (String × String)
  | .mapping _ none [(_, .scalar _ none .plain key, .sequence _ none [.scalar _ none .plain item])] =>
    some (key, item)
  | _ => none

theorem shows_of_plainEntry? {t : Yaml.Tree} {key item : String} (h : plainEntry? t = some (key, item))
    (hkey : Yaml.meaning key = .text) (hitem : Yaml.meaning item = .text) :
    Shows t (.object [(key, .strings [item])]) := by
  unfold plainEntry? at h
  split at h
  · cases h
    exact .mapping (.cons (.string fun _ => hkey)
      (.sequence (.cons (.string fun _ => hitem) .nil)) .nil) (by simp)
  · cases h

/-- Reading undoes writing: every tree of the record of a suite is read as that suite, also where fields
are left out that hold their defaults. So a text that writes a suite which was read is read as it again. -/
theorem ofYaml_of_abridged (s : Suite) :
    Abridged s.toJson s.toJson ∧
    (∀ j, Abridged s.toJson j → (∃ t, Shows t j) ∧
      ∀ path t, Shows t j → decoder path t = .ok s) ∧
    ∀ content, ofYaml content = .ok s → ∀ again j, Abridged s.toJson j →
      (Yaml.read again).fault = none → Shows (Yaml.read again).tree j → ofYaml again = .ok s := by
  refine ⟨.refl _, fun j hj => ⟨hj.exists_shows s.exists_shows_toJson, s.reads_abridged hj⟩, ?_⟩
  intro content hcontent again j hj hwhole hshows
  obtain ⟨-, hvalid⟩ := ofYaml_eq_ok_iff.1 hcontent
  exact ofYaml_of_valid (Yaml.load_of_whole (s.reads_abridged hj [] _ hshows) hwhole) hvalid

/-- A suite that wrote out a default is had again from a text without it. -/
theorem ofYaml_of_abridged_flow :
    ofYaml "dot: dot\ntools:\n- neato\n" = .ok { tools := ["neato"] } ∧
      ofYaml "tools: [neato]" = .ok { tools := ["neato"] } := by
  have hcontent : ofYaml "dot: dot\ntools:\n- neato\n" = .ok { tools := ["neato"] } :=
    ofYaml_eq_ok_of_toOption (by decide +kernel)
  have hwhole : (Yaml.read "tools: [neato]").fault = none :=
    Option.isNone_iff_eq_none.1 (by decide +kernel)
  have hentry : plainEntry? (Yaml.read "tools: [neato]").tree = some ("tools", "neato") := by
    decide +kernel
  have hshows := shows_of_plainEntry? hentry rfl rfl
  have hj : Abridged ({ tools := ["neato"] } : Suite).toJson
      (.object [("tools", .strings ["neato"])]) :=
    .object (.keep (.refl _) (.drop (by simp [defaults]) (.drop (by simp [defaults])
      (.drop (by simp [defaults, Json.strings]) (.drop (by simp [defaults]) .nil)))))
  exact ⟨hcontent, (ofYaml_of_abridged { tools := ["neato"] }).2.2 _ hcontent _ _ hj hwhole hshows⟩

end Suite

end SmokeSuite
