import SmokeSuite.Proofs.Json.RoundTrip
import SmokeSuite.Proofs.Schema.Shape
import SmokeSuite.Proofs.Suite.RoundTrip
import SmokeSuite.Proofs.Suite.Validation

namespace SmokeSuite

open JsonSchema (Valid)
open Yaml (Decoder Reads Shows exists_shows_of_mem_object exists_shows_of_mem_array)
open Yaml.Decoder (Gives exists_gives)
open Definition (Admits Fits properties)
open Suite (schema)

variable {v : Json}

namespace Suite

theorem named_hostSystem_iff : schema.Named "HostSystem" v ↔ ∃ h : HostSystem, v = .string h.name := by
  rw [Schema.named_enumeration_iff rfl]
  simp [HostSystem.mem_all]

theorem named_condition_iff :
    schema.Named "Condition" v ↔ Admits schema.Named conditionDefinition.properties v :=
  Schema.named_record_iff rfl (by decide) (by decide)

theorem named_exclusion_iff :
    schema.Named "ExclusionRule" v ↔ Admits schema.Named exclusionDefinition.properties v :=
  Schema.named_record_iff rfl (by decide) (by decide)

theorem named_expectedFailure_iff :
    schema.Named "ExpectedFailure" v ↔ Admits schema.Named expectedFailureDefinition.properties v :=
  Schema.named_record_iff rfl (by decide) (by decide)

theorem named_format_iff :
    schema.Named "FormatTarget" v ↔ Admits schema.Named formatDefinition.properties v :=
  Schema.named_record_iff rfl (by decide) (by decide)

theorem valid_schema_iff :
    Valid schema.toJson schema.toJson v ↔ Admits schema.Named rootDefinition.properties v :=
  Schema.valid_toJson_iff rfl (by decide) (by decide)

end Suite

section Encoding

theorem Condition.named_toJson (c : Condition) : schema.Named "Condition" c.toJson := by
  refine Suite.named_condition_iff.2 ⟨_, rfl, ?_, ?_, ?_⟩
  · simp [Suite.conditionDefinition, properties]
  · simp [Suite.conditionDefinition, properties, Json.member, or_imp, forall_and]
  · simp [Suite.conditionDefinition, properties, Json.member, Shape.Allows,
      Suite.named_hostSystem_iff, -Bool.exists_bool, -Bool.forall_bool]

theorem Exclusion.named_toJson {x : Exclusion} (ht : x.tools ≠ []) (hr : x.reason ≠ "") :
    schema.Named "ExclusionRule" x.toJson := by
  refine Suite.named_exclusion_iff.2 ⟨_, rfl, ?_, ?_, ?_⟩
  · simp [Suite.exclusionDefinition, properties]
  · simp [Suite.exclusionDefinition, properties]
  · simp [Suite.exclusionDefinition, properties, Shape.Allows, issuesJson, Json.strings, Json.nat,
      Decimal.value_nat, ht, hr, x.condition.named_toJson]

theorem ExpectedFailure.named_toJson (x : ExpectedFailure) :
    schema.Named "ExpectedFailure" x.toJson := by
  refine Suite.named_expectedFailure_iff.2 ⟨_, rfl, ?_, ?_, ?_⟩
  · simp [Suite.expectedFailureDefinition, properties]
  · simp [Suite.expectedFailureDefinition, properties]
  · simp [Suite.expectedFailureDefinition, properties, Shape.Allows, x.condition.named_toJson]

theorem FormatTarget.named_toJson {t : FormatTarget} (hf : t.format ≠ "") (hs : t.source ≠ "") :
    schema.Named "FormatTarget" t.toJson := by
  refine Suite.named_format_iff.2 ⟨_, rfl, ?_, ?_, ?_⟩
  · simp [Suite.formatDefinition, properties]
  · simp [Suite.formatDefinition, properties]
  · simp only [Suite.formatDefinition, properties, List.forall_mem_cons]
    refine ⟨?_, ?_, ?_, ?_, nofun⟩
    · simp [Shape.Allows, hf]
    · cases t.issue <;> simp [Shape.Allows, Json.nat, Decimal.value_nat]
    · simp [Shape.Allows, hs]
    · cases t.xfail with
      | none => simp [Shape.Allows]
      | some x => simp [Shape.Allows, x.named_toJson]

/-- The schema allows what is written of a well-formed suite. -/
theorem Suite.valid_toJson {s : Suite} (h : s.IsWellFormed) :
    Valid schema.toJson schema.toJson s.toJson := by
  refine valid_schema_iff.2 ⟨_, rfl, ?_, ?_, ?_⟩
  · simp [rootDefinition, properties]
  · simp [rootDefinition, properties]
  · simp only [rootDefinition, properties, List.forall_mem_cons]
    refine ⟨?_, ?_, ?_, ?_, ?_, nofun⟩
    · simp [Shape.Allows, Json.strings]
    · simp [Shape.Allows, h.dot]
    · have hall : ∀ x ∈ s.exclusions, schema.Named "ExclusionRule" x.toJson := fun x hx =>
        Exclusion.named_toJson (h.exclusions x hx).1 (h.exclusions x hx).2
      simpa [Shape.Allows] using hall
    · have hall : ∀ t ∈ s.formats, schema.Named "FormatTarget" t.toJson := fun t ht =>
        FormatTarget.named_toJson (h.formats t ht).1 (h.formats t ht).2
      simpa [Shape.Allows] using hall
    · simp [Shape.Allows, Json.strings, h.tools]

end Encoding

namespace Json

/-- The value of an object's member, if it has one of that name. -/
def under (name : String) (j : Json) : List Json := (j.member? name).toList

/-- The items of an array. -/
def elements : Json → List Json
  | .array js => js
  | _ => []

theorem under_eq {os : List (String × Json)} (hnames : (os.map (·.1)).Nodup) {name : String} {j : Json}
    (hj : (name, j) ∈ os) : (Json.object os).under name = [j] := by
  rw [under, member?, (lookup_eq_some_iff_mem hnames).2 hj]
  rfl

end Json

/-- Whether all numbers among some values are less than the bound of words of 32 bits. -/
def FitWords (js : List Json) : Prop := ∀ d, .number d ∈ js → d.value < (UInt32.size : ℚ)

section Decoding

variable {named : String → Json → Prop}

theorem exists_reads_string {nonEmpty : Bool} (h : (Shape.string nonEmpty).Allows named v) :
    ∃ s, Reads Decoder.string v s ∧ v = .string s ∧ (nonEmpty = true → s ≠ "") := by
  obtain ⟨s, rfl, hs⟩ := h
  exact ⟨s, .string s, rfl, hs⟩

theorem exists_reads_boolean (h : Shape.boolean.Allows named v) : ∃ b, Reads Decoder.bool v b := by
  obtain ⟨b, rfl⟩ := h
  exact ⟨b, .bool b⟩

theorem exists_reads_strings {nonEmpty : Bool}
    (h : (Shape.list nonEmpty (.string false)).Allows named v) :
    ∃ ss, Reads (.list .string) v ss ∧ v = .strings ss ∧ (nonEmpty = true → ss ≠ []) := by
  obtain ⟨js, rfl, hne, hjs⟩ := h
  obtain ⟨ss, hread, hss⟩ := Reads.exists_list fun j hj => exists_reads_string (hjs j hj)
  have heq : js = ss.map .string := by
    clear hread hne hjs
    induction hss with
    | nil => rfl
    | cons h _ ih => rw [h.1, ih, List.map_cons]
  refine ⟨ss, hread, by rw [heq, Json.strings], ?_⟩
  rintro hn rfl
  exact hne hn heq

/-- A shown number that is whole and not too large is read as a word. -/
theorem exists_reads_word32 (hs : ∃ t, Shows t v) (hfit : FitWords [v])
    (h : Shape.word32.Allows named v) : ∃ n, Reads .word32 v n := by
  obtain ⟨d, rfl, n, hn⟩ := h
  have hlt := hfit d (by simp)
  obtain ⟨_, ht⟩ := hs
  cases ht with
  | @natural _ _ m =>
    rw [Decimal.value_nat, Nat.cast_lt] at hlt
    exact ⟨_, .word32 hlt⟩
  | @negative _ _ m =>
    have hneg : (⟨true, m + 1, 0⟩ : Decimal).value < 0 := by
      simp only [Decimal.value, if_true, zpow_zero, mul_one, neg_one_mul, neg_lt_zero]
      exact_mod_cast m.succ_pos
    rw [hn] at hneg
    exact absurd hneg (not_lt.2 n.cast_nonneg)

theorem exists_reads_words {nonEmpty : Bool} (hs : ∃ t, Shows t v) (hfit : FitWords v.elements)
    (h : (Shape.list nonEmpty .word32).Allows named v) : ∃ ns, Reads (.list .word32) v ns := by
  obtain ⟨js, rfl, -, hjs⟩ := h
  have hall : ∀ j ∈ js, ∃ n, Reads .word32 j n ∧ True := by
    intro j hj
    have hone : FitWords [j] := fun d hd => hfit d (List.mem_singleton.1 hd ▸ hj)
    obtain ⟨n, hn⟩ := exists_reads_word32 (exists_shows_of_mem_array hs j hj) hone (hjs j hj)
    exact ⟨n, hn, trivial⟩
  obtain ⟨ns, hns, -⟩ := Reads.exists_list hall
  exact ⟨ns, hns⟩

theorem exists_reads_optional {α : Type} {d : Decoder α} {shape : Shape}
    (h : shape.optional.Allows named v)
    (hread : shape.Allows named v → v ≠ .null ∧ ∃ x, Reads d v x) : ∃ x, Reads (.optional d) v x :=
  Reads.exists_optional (h.imp_right hread)

namespace Definition.Fits

variable {properties : List Property} {os : List (String × Json)} {name : String} {p : Property}
  {α : Type} {d : Decoder α} {q : α → Prop}

/-- A required member gives something if what its property allows can be read. -/
theorem exists_required (hf : Fits named properties os) (hnames : (os.map (·.1)).Nodup)
    (hp : properties.find? (·.name == name) = some p) (hr : p.required = true)
    (hread : ∀ j, (name, j) ∈ os → p.shape.Allows named j → ∃ x, Reads d j x ∧ q x) :
    ∃ x, Gives os name d none x ∧ q x := by
  have hname : p.name = name := by simpa using List.find?_some hp
  refine exists_gives hnames (fun j hj => hread j hj (hf.allows_of_find? hp hj)) fun hn => ?_
  exact absurd (hname ▸ hf.required p (List.mem_of_find?_eq_some hp) hr) hn

/-- A member that is not required gives its default, where it is not there. -/
theorem exists_optional_and (hf : Fits named properties os) (hnames : (os.map (·.1)).Nodup)
    (hp : properties.find? (·.name == name) = some p) (default : α) (hq : q default)
    (hread : ∀ j, (name, j) ∈ os → p.shape.Allows named j → ∃ x, Reads d j x ∧ q x) :
    ∃ x, Gives os name d (some default) x ∧ q x :=
  exists_gives hnames (fun j hj => hread j hj (hf.allows_of_find? hp hj)) fun _ => ⟨default, rfl, hq⟩

theorem exists_optional (hf : Fits named properties os) (hnames : (os.map (·.1)).Nodup)
    (hp : properties.find? (·.name == name) = some p) (default : α)
    (hread : ∀ j, (name, j) ∈ os → p.shape.Allows named j → ∃ x, Reads d j x) :
    ∃ x, Gives os name d (some default) x := by
  obtain ⟨x, hx, -⟩ := hf.exists_optional_and (q := fun _ => True) hnames hp default trivial
    fun j hj h => (hread j hj h).imp fun _ hr => ⟨hr, trivial⟩
  exact ⟨x, hx⟩

end Definition.Fits

theorem Condition.exists_reads (hs : ∃ t, Shows t v) (h : schema.Named "Condition" v) :
    ∃ c, Reads decoder v c := by
  obtain ⟨os, rfl, hf⟩ := Suite.named_condition_iff.1 h
  obtain ⟨hnames, -⟩ := exists_shows_of_mem_object hs
  have hstring (j : Json) (hj : (Shape.optional (.string false)).Allows schema.Named j) :
      ∃ x, Reads (.optional .string) j x := exists_reads_optional hj fun ⟨s, hs, _⟩ =>
    hs ▸ ⟨nofun, s, .string s⟩
  have hhost (j : Json) (hj : (Shape.optional (.named "HostSystem")).Allows schema.Named j) :
      ∃ x, Reads (.optional HostSystem.decoder) j x := exists_reads_optional hj fun hnamed => by
    obtain ⟨y, rfl⟩ := Suite.named_hostSystem_iff.1 hnamed
    exact ⟨nofun, y, y.reads⟩
  have hbool (j : Json) (hj : (Shape.optional .boolean).Allows schema.Named j) :
      ∃ x, Reads (.optional .bool) j x := exists_reads_optional hj fun ⟨b, hb⟩ =>
    hb ▸ ⟨nofun, b, .bool b⟩
  obtain ⟨osId, hosId⟩ : ∃ x, Gives os "os_id" _ _ x :=
    hf.exists_optional hnames rfl none fun j _ => hstring j
  obtain ⟨buildSystem, hbuildSystem⟩ : ∃ x, Gives os "build_system" _ _ x :=
    hf.exists_optional hnames rfl none fun j _ => hstring j
  obtain ⟨system, hsystem⟩ : ∃ x, Gives os "system" _ _ x :=
    hf.exists_optional hnames rfl none fun j _ => hhost j
  obtain ⟨notSystem, hnotSystem⟩ : ∃ x, Gives os "not_system" _ _ x :=
    hf.exists_optional hnames rfl none fun j _ => hhost j
  obtain ⟨asan, hasan⟩ : ∃ x, Gives os "asan" _ _ x :=
    hf.exists_optional hnames rfl none fun j _ => hbool j
  obtain ⟨platform, hplatform⟩ : ∃ x, Gives os "project_platform" _ _ x :=
    hf.exists_optional hnames rfl none fun j _ => hstring j
  have hknown : ∀ n ∈ Suite.conditionDefinition.properties.map (·.name), n ∈ fields.map (·.name) := by
    decide
  exact ⟨{ osId, buildSystem, system, notSystem, asan, platform }, IsGiven.reads
    ⟨fun m hm => hknown _ (hf.known m hm), hosId, hbuildSystem, hsystem, hnotSystem, hasan, hplatform⟩⟩

theorem Exclusion.exists_reads (hs : ∃ t, Shows t v) (h : schema.Named "ExclusionRule" v)
    (hfit : FitWords ((v.under "issues").flatMap Json.elements)) :
    ∃ x, Reads decoder v x ∧ x.tools ≠ [] ∧ x.reason ≠ "" := by
  obtain ⟨os, rfl, hf⟩ := Suite.named_exclusion_iff.1 h
  obtain ⟨hnames, hshown⟩ := exists_shows_of_mem_object hs
  obtain ⟨condition, hcondition⟩ : ∃ x, Gives os "when" Condition.decoder _ x := by
    refine hf.exists_optional hnames rfl {} fun j hj h => ?_
    exact Condition.exists_reads (hshown _ hj) h
  obtain ⟨tools, htools, hne⟩ : ∃ ss, Gives os "tools" (.list .string) none ss ∧ ss ≠ [] := by
    refine hf.exists_required hnames rfl rfl fun j _ h => ?_
    obtain ⟨ss, hread, -, hne⟩ := exists_reads_strings h
    exact ⟨ss, hread, hne rfl⟩
  obtain ⟨reason, hreason, hr⟩ : ∃ s, Gives os "reason" .string none s ∧ s ≠ "" := by
    refine hf.exists_required hnames rfl rfl fun j _ h => ?_
    obtain ⟨s, hread, -, hne⟩ := exists_reads_string h
    exact ⟨s, hread, hne rfl⟩
  obtain ⟨issues, hissues⟩ : ∃ ns, Gives os "issues" (.list .word32) _ ns := by
    refine hf.exists_optional hnames rfl [] fun j hj h => ?_
    rw [Json.under_eq hnames hj] at hfit
    exact exists_reads_words (hshown _ hj) (by simpa using hfit) h
  have hknown : ∀ n ∈ Suite.exclusionDefinition.properties.map (·.name), n ∈ fields.map (·.name) := by
    decide
  exact ⟨{ condition, tools, issues, reason }, IsGiven.reads
    ⟨fun m hm => hknown _ (hf.known m hm), hcondition, htools, hissues, hreason⟩, hne, hr⟩

theorem ExpectedFailure.exists_reads (hs : ∃ t, Shows t v) (h : schema.Named "ExpectedFailure" v) :
    ∃ x, Reads decoder v x := by
  obtain ⟨os, rfl, hf⟩ := Suite.named_expectedFailure_iff.1 h
  obtain ⟨hnames, hshown⟩ := exists_shows_of_mem_object hs
  obtain ⟨condition, hcondition⟩ : ∃ x, Gives os "when" Condition.decoder _ x := by
    refine hf.exists_optional hnames rfl {} fun j hj h => ?_
    exact Condition.exists_reads (hshown _ hj) h
  obtain ⟨reason, hreason, -⟩ : ∃ s, Gives os "reason" .string none s ∧ True := by
    refine hf.exists_required hnames rfl rfl fun j _ h => ?_
    obtain ⟨s, hread, -⟩ := exists_reads_string h
    exact ⟨s, hread, trivial⟩
  obtain ⟨strict, hstrict⟩ : ∃ b, Gives os "strict" .bool _ b := by
    refine hf.exists_optional hnames rfl true fun j _ h => ?_
    exact exists_reads_boolean h
  have hknown : ∀ n ∈ Suite.expectedFailureDefinition.properties.map (·.name),
      n ∈ fields.map (·.name) := by
    decide
  exact ⟨{ condition, reason, strict }, IsGiven.reads
    ⟨fun m hm => hknown _ (hf.known m hm), hcondition, hreason, hstrict⟩⟩

theorem FormatTarget.exists_reads (hs : ∃ t, Shows t v) (h : schema.Named "FormatTarget" v)
    (hfit : FitWords (v.under "issue")) :
    ∃ t, Reads decoder v t ∧ t.format ≠ "" ∧ t.source ≠ "" ∧
      v.under "format" = [.string t.format] := by
  obtain ⟨os, rfl, hf⟩ := Suite.named_format_iff.1 h
  obtain ⟨hnames, hshown⟩ := exists_shows_of_mem_object hs
  obtain ⟨format, hformat, hne, hunder⟩ : ∃ s, Gives os "format" .string none s ∧
      s ≠ "" ∧ (Json.object os).under "format" = [.string s] := by
    refine hf.exists_required hnames rfl rfl fun j hj h => ?_
    obtain ⟨s, hread, rfl, hne⟩ := exists_reads_string h
    exact ⟨s, hread, hne rfl, Json.under_eq hnames hj⟩
  obtain ⟨source, hsource, hn⟩ : ∃ s, Gives os "source" .string _ s ∧ s ≠ "" := by
    refine hf.exists_optional_and hnames rfl defaultSource (by decide) fun j _ h => ?_
    obtain ⟨s, hread, -, hne⟩ := exists_reads_string h
    exact ⟨s, hread, hne rfl⟩
  obtain ⟨issue, hissue⟩ : ∃ x, Gives os "issue" (.optional .word32) _ x := by
    refine hf.exists_optional hnames rfl none fun j hj h => ?_
    rw [Json.under_eq hnames hj] at hfit
    refine exists_reads_optional h fun hword => ⟨?_, exists_reads_word32 (hshown _ hj) hfit hword⟩
    obtain ⟨d, rfl, -⟩ := hword
    nofun
  obtain ⟨xfail, hxfail⟩ : ∃ x, Gives os "xfail" (.optional ExpectedFailure.decoder) _ x := by
    refine hf.exists_optional hnames rfl none fun j hj h => ?_
    refine exists_reads_optional h fun hnamed =>
      ⟨?_, ExpectedFailure.exists_reads (hshown _ hj) hnamed⟩
    obtain ⟨_, rfl, -⟩ := Suite.named_expectedFailure_iff.1 hnamed
    nofun
  have hknown : ∀ n ∈ Suite.formatDefinition.properties.map (·.name), n ∈ fields.map (·.name) := by
    decide
  exact ⟨{ format, source, issue, xfail }, IsGiven.reads
    ⟨fun m hm => hknown _ (hf.known m hm), hformat, hsource, hissue, hxfail⟩, hne, hn, hunder⟩

namespace Suite

/-- The numbers of issues in what describes a suite. -/
def issueNumbers (j : Json) : List Json :=
  ((j.under "exclusions").flatMap Json.elements).flatMap
      (fun x => (x.under "issues").flatMap Json.elements) ++
    ((j.under "formats").flatMap Json.elements).flatMap (Json.under "issue")

def toolNames (j : Json) : List Json := (j.under "tools").flatMap Json.elements

def formatNames (j : Json) : List Json :=
  ((j.under "formats").flatMap Json.elements).flatMap (Json.under "format")

theorem exists_reads_exclusions {js : List Json} (hs : ∃ t, Shows t (.array js))
    (h : ∀ j ∈ js, schema.Named "ExclusionRule" j)
    (hfit : FitWords (js.flatMap fun x => (x.under "issues").flatMap Json.elements)) :
    ∃ xs, Reads (.list Exclusion.decoder) (.array js) xs ∧
      ∀ x ∈ xs, x.tools ≠ [] ∧ x.reason ≠ "" := by
  have hall : ∀ j ∈ js, ∃ x, Reads Exclusion.decoder j x ∧ x.tools ≠ [] ∧ x.reason ≠ "" :=
    fun j hj => Exclusion.exists_reads (exists_shows_of_mem_array hs j hj) (h j hj) fun d hd =>
      hfit d (List.mem_flatMap.2 ⟨j, hj, hd⟩)
  obtain ⟨xs, hread, hxs⟩ := Reads.exists_list hall
  refine ⟨xs, hread, fun x hx => ?_⟩
  obtain ⟨i, hi, rfl⟩ := List.getElem_of_mem hx
  exact hxs.get (hxs.length_eq ▸ hi) hi

theorem exists_reads_formats {js : List Json} (hs : ∃ t, Shows t (.array js))
    (h : ∀ j ∈ js, schema.Named "FormatTarget" j) (hfit : FitWords (js.flatMap (Json.under "issue")))
    (hnames : (js.flatMap (Json.under "format")).Nodup) :
    ∃ ts, Reads (.list FormatTarget.decoder) (.array js) ts ∧
      (∀ t ∈ ts, t.format ≠ "" ∧ t.source ≠ "") ∧ (ts.map (·.format)).Nodup := by
  have hall : ∀ j ∈ js, ∃ t, Reads FormatTarget.decoder j t ∧
      t.format ≠ "" ∧ t.source ≠ "" ∧ j.under "format" = [.string t.format] := fun j hj =>
    FormatTarget.exists_reads (exists_shows_of_mem_array hs j hj) (h j hj) fun d hd =>
      hfit d (List.mem_flatMap.2 ⟨j, hj, hd⟩)
  obtain ⟨ts, hread, hts⟩ := Reads.exists_list hall
  refine ⟨ts, hread, fun t ht => ?_, ?_⟩
  · obtain ⟨i, hi, rfl⟩ := List.getElem_of_mem ht
    obtain ⟨hf, hn, -⟩ := hts.get (hts.length_eq ▸ hi) hi
    exact ⟨hf, hn⟩
  · have hformats : js.flatMap (Json.under "format") = (ts.map (·.format)).map .string := by
      clear hread hall hnames hfit h hs
      induction hts with
      | nil => rfl
      | cons ht _ ih => rw [List.flatMap_cons, ht.2.2, ih, List.map_cons, List.map_cons]; rfl
    rw [hformats] at hnames
    exact hnames.of_map

theorem exists_reads (hs : ∃ t, Shows t v) (h : Valid schema.toJson schema.toJson v)
    (hfit : FitWords (issueNumbers v)) (htools : (toolNames v).Nodup)
    (hformats : (formatNames v).Nodup) : ∃ s, Reads decoder v s ∧ s.IsWellFormed := by
  obtain ⟨os, rfl, hf⟩ := valid_schema_iff.1 h
  obtain ⟨hnames, hshown⟩ := exists_shows_of_mem_object hs
  obtain ⟨tools, htools, hne, hdistinct⟩ : ∃ ss, Gives os "tools" (.list .string) none ss ∧
      ss ≠ [] ∧ ss.Nodup := by
    refine hf.exists_required hnames rfl rfl fun j hj h => ?_
    obtain ⟨ss, hread, rfl, hne⟩ := exists_reads_strings h
    rw [toolNames, Json.under_eq hnames hj] at htools
    refine ⟨ss, hread, hne rfl, List.Nodup.of_map Json.string ?_⟩
    simpa [Json.elements, Json.strings] using htools
  obtain ⟨exclusions, hexclusions, hx⟩ : ∃ xs, Gives os "exclusions" (.list Exclusion.decoder) _ xs ∧
      ∀ x ∈ xs, x.tools ≠ [] ∧ x.reason ≠ "" := by
    refine hf.exists_optional_and hnames rfl [] (by simp) fun j hj h => ?_
    obtain ⟨js, rfl, -, hjs⟩ := h
    refine exists_reads_exclusions (hshown _ hj) hjs fun d hd => hfit d ?_
    rw [issueNumbers, Json.under_eq hnames hj]
    simpa [Json.elements] using Or.inl hd
  obtain ⟨formats, hformats, ht, hdistinctFormats⟩ :
      ∃ ts, Gives os "formats" (.list FormatTarget.decoder) _ ts ∧
        (∀ t ∈ ts, t.format ≠ "" ∧ t.source ≠ "") ∧ (ts.map (·.format)).Nodup := by
    refine hf.exists_optional_and hnames rfl [] (by simp) fun j hj h => ?_
    obtain ⟨js, rfl, -, hjs⟩ := h
    refine exists_reads_formats (hshown _ hj) hjs (fun d hd => hfit d ?_) ?_
    · rw [issueNumbers, Json.under_eq hnames hj]
      simpa [Json.elements] using Or.inr hd
    · rw [formatNames, Json.under_eq hnames hj] at hformats
      simpa [Json.elements] using hformats
  obtain ⟨asanJobs, hasanJobs⟩ : ∃ ss, Gives os "asan_jobs" (.list .string) _ ss := by
    refine hf.exists_optional hnames rfl [] fun j _ h => ?_
    obtain ⟨ss, hread, -⟩ := exists_reads_strings h
    exact ⟨ss, hread⟩
  obtain ⟨dot, hdot, hd⟩ : ∃ s, Gives os "dot" .string _ s ∧ s ≠ "" := by
    refine hf.exists_optional_and hnames rfl defaultDot (by decide) fun j _ h => ?_
    obtain ⟨s, hread, -, hne⟩ := exists_reads_string h
    exact ⟨s, hread, hne rfl⟩
  have hknown : ∀ n ∈ rootDefinition.properties.map (·.name), n ∈ fields.map (·.name) := by decide
  exact ⟨{ tools, exclusions, formats, asanJobs, dot }, IsGiven.reads
    ⟨fun m hm => hknown _ (hf.known m hm), htools, hexclusions, hformats, hasanJobs, hdot⟩,
    ⟨hne, hd, hx, ht, hdistinct, hdistinctFormats⟩⟩

end Suite

end Decoding

namespace Suite

/-- What is printed is a JSON text, and it is the text of the schema. -/
theorem read_toText_schema : Json.read schema.toText = .ok schema.toJson :=
  Json.read_toPretty (Json.isPlain_of_check _ 0 (by decide +kernel))

/-- The schema that is printed and the reader agree. What is written of a suite that was read fits the schema; and every
tree that fits it is read, as a well-formed suite, if its issue numbers are not too large and no tool and
no format stands in it twice, which the schema cannot tell. -/
theorem schema_agrees :
    Json.read schema.toText = .ok schema.toJson ∧
    (∀ content s, ofYaml content = .ok s → Valid schema.toJson schema.toJson s.toJson) ∧
    ∀ t j, Shows t j → Valid schema.toJson schema.toJson j → FitWords (issueNumbers j) →
      (toolNames j).Nodup → (formatNames j).Nodup →
      ∃ s, decoder [] t = .ok s ∧ s.validate = .ok () ∧
        ∀ content, Yaml.read content = ⟨t, none⟩ → ofYaml content = .ok s := by
  refine ⟨read_toText_schema, fun content s h => ?_, fun t j ht h hfit htools hformats => ?_⟩
  · obtain ⟨-, hvalid⟩ := ofYaml_eq_ok_iff.1 h
    exact valid_toJson (validate_eq_ok_iff.1 hvalid)
  · obtain ⟨s, hread, hs⟩ := exists_reads ⟨t, ht⟩ h hfit htools hformats
    have hvalid := validate_eq_ok_iff.2 hs
    refine ⟨s, hread [] t ht, hvalid, fun content hc => ofYaml_of_valid ?_ hvalid⟩
    exact Yaml.load_of_whole (by rw [hc]; exact hread [] t ht) (by rw [hc])

/-- What is written of a suite with a format and its issue fits the schema, and is read again. -/
theorem schema_agrees_of_issue :
    let s : Suite := { tools := ["neato"], formats := [{ format := "svg", issue := some 7 }] }
    ofYaml "tools: [neato]\nformats: [{format: svg, issue: 7}]" = .ok s ∧
      Valid schema.toJson schema.toJson s.toJson ∧
      ∃ t, Shows t s.toJson ∧ ∃ u, decoder [] t = .ok u ∧ u.validate = .ok () := by
  intro s
  have hcontent : ofYaml "tools: [neato]\nformats: [{format: svg, issue: 7}]" = .ok s :=
    ofYaml_eq_ok_of_toOption (by decide +kernel)
  have hvalid := schema_agrees.2.1 _ s hcontent
  have hnumbers : issueNumbers s.toJson = [.nat 7] := rfl
  have hfit : FitWords (issueNumbers s.toJson) := by
    rw [hnumbers]
    intro d hd
    obtain rfl : d = ⟨false, 7, 0⟩ := by simpa [Json.nat] using hd
    rw [Decimal.value_nat]
    norm_num [UInt32.size]
  have htools : toolNames s.toJson = [.string "neato"] := rfl
  have hformats : formatNames s.toJson = [.string "svg"] := rfl
  obtain ⟨t, ht⟩ := s.exists_shows_toJson
  obtain ⟨u, hu, huvalid, -⟩ := schema_agrees.2.2 t s.toJson ht hvalid hfit (by simp [htools])
    (by simp [hformats])
  exact ⟨hcontent, hvalid, t, ht, u, hu, huvalid⟩

end Suite

end SmokeSuite
