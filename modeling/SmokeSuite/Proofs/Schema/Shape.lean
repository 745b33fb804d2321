import SmokeSuite.Proofs.Json.Validity
import SmokeSuite.Suite.Schema
import Mathlib.Data.List.Nodup
import Mathlib.Tactic.NormNum

namespace SmokeSuite

open JsonSchema

theorem Decimal.value_nat (n : Nat) : (⟨false, n, 0⟩ : Decimal).value = n := by simp [value]

namespace Shape

/-- The values of a shape, given those of the named definitions. -/
def Allows (named : String → Json → Prop) : Shape → Json → Prop
  | .string nonEmpty, v => ∃ s, v = .string s ∧ (nonEmpty = true → s ≠ "")
  | .boolean, v => ∃ b, v = .bool b
  | .word32, v => ∃ d, v = .number d ∧ ∃ n : ℕ, d.value = n
  | .list nonEmpty item, v =>
    ∃ js, v = .array js ∧ (nonEmpty = true → js ≠ []) ∧ ∀ j ∈ js, item.Allows named j
  | .named name, v => named name v
  | .optional shape, v => v = .null ∨ shape.Allows named v

/-- Whether a shape keeps its bounds where it is optional. The text does not give them there for texts and
lists. -/
def isPlain : Shape → Bool
  | .list _ item => item.isPlain
  | .optional (.string nonEmpty) => !nonEmpty
  | .optional (.list ..) | .optional (.optional _) => false
  | _ => true

end Shape

/-- Members of a schema that ask for nothing. -/
def IsAbout (ms : List (String × Json)) : Prop := ∀ m ∈ ms, Keyword.ofName m.1 = .remark

namespace IsAbout

variable {ms ns : List (String × Json)} {name : String}

theorem append (hm : IsAbout ms) (hn : IsAbout ns) : IsAbout (ms ++ ns) :=
  List.forall_mem_append.2 ⟨hm, hn⟩

theorem member (h : Keyword.ofName name = .remark) (j : Option Json) :
    IsAbout (Json.member name j) := by
  cases j with
  | none => nofun
  | some j => simp [IsAbout, Json.member, h]

theorem lookup_eq_none (hm : IsAbout ms) (h : Keyword.ofName name ≠ .remark) :
    ms.lookup name = none := by
  refine List.lookup_eq_none_iff.2 fun m hmem => ?_
  rw [bne_iff_ne]
  rintro rfl
  exact h (hm m hmem)

end IsAbout

namespace Shape

variable {root v : Json}

theorem valid_about_append_iff {about ms : List (String × Json)} (ha : IsAbout about)
    (hms : ∀ m ∈ ms, Keyword.ofName m.1 ≠ .reference) :
    Valid root (.object (about ++ ms)) v ↔ ∀ m ∈ ms, Passes root (about ++ ms) (.ofName m.1) m.2 v := by
  have hall : ∀ m ∈ about ++ ms, Keyword.ofName m.1 ≠ .reference := by
    refine List.forall_mem_append.2 ⟨fun m hm => ?_, hms⟩
    rw [ha m hm]
    nofun
  rw [valid_iff_of_keywords hall, List.forall_mem_append, and_iff_right]
  intro m hm
  rw [ha m hm]
  exact .remark

theorem passes_typeName_iff {ms : List (String × Json)} {name : String} :
    Passes root ms .type (.string name) v ↔ HasType name v := by
  simp [passes_type_iff, typeNames]

theorem passes_typeName_null_iff {ms : List (String × Json)} {name : String} :
    Passes root ms .type (.strings [name, "null"]) v ↔ v = .null ∨ HasType name v := by
  simp [passes_type_iff, typeNames, Json.strings, hasType_null_iff, or_and_right, exists_or, or_comm]

theorem passes_minLength_one_iff {ms : List (String × Json)} :
    Passes root ms .minLength (.nat 1) v ↔ ∀ s, v = .string s → s ≠ "" := by
  simp only [Json.nat, passes_minLength_iff, Decimal.value_nat, Nat.cast_le, Nat.one_le_iff_ne_zero,
    ne_eq, String.length_eq_zero_iff]

theorem passes_minItems_one_iff {ms : List (String × Json)} :
    Passes root ms .minItems (.nat 1) v ↔ ∀ js, v = .array js → js ≠ [] := by
  simp only [Json.nat, passes_minItems_iff, Decimal.value_nat, Nat.cast_le, Nat.one_le_iff_ne_zero,
    ne_eq, List.length_eq_zero_iff]

theorem passes_bounds_word32_iff {ms : List (String × Json)} :
    (∀ m ∈ bounds .word32, Passes root ms (.ofName m.1) m.2 v) ↔
      ∀ d, v = .number d → 0 ≤ d.value := by
  simp [bounds, Keyword.ofName, passes_minimum_iff, Decimal.value]

theorem forall_mem_least {key : String} {nonEmpty : Bool} {p : String × Json → Prop} :
    (∀ m ∈ least key nonEmpty, p m) ↔ (nonEmpty = true → p (key, .nat 1)) := by
  cases nonEmpty <;> simp [least]

theorem ofName_ne_reference {shape : Shape} (h : ∀ name, shape ≠ .named name) (alone : Bool) :
    ∀ m ∈ shape.members alone, Keyword.ofName m.1 ≠ .reference := by
  cases shape with
  | string nonEmpty => cases nonEmpty <;> simp [members, least, Keyword.ofName]
  | boolean => simp [members, Keyword.ofName]
  | word32 => simp [members, bounds, Keyword.ofName]
  | list nonEmpty item => cases nonEmpty <;> simp [members, least, Keyword.ofName]
  | named name => exact absurd rfl (h name)
  | optional shape => cases shape <;> simp [members, bounds, Keyword.ofName]

theorem valid_about_members_iff {shape : Shape} (hn : ∀ name, shape ≠ .named name)
    {about : List (String × Json)} (ha : IsAbout about) (alone : Bool) :
    Valid root (.object (about ++ shape.members alone)) v ↔
      ∀ m ∈ shape.members alone, Passes root (about ++ shape.members alone) (.ofName m.1) m.2 v :=
  valid_about_append_iff ha (ofName_ne_reference hn alone)

theorem exists_nat_value_iff {d : Decimal} :
    ((∃ z : ℤ, d.value = z) ∧ 0 ≤ d.value) ↔ ∃ n : ℕ, d.value = n := by
  constructor
  · rintro ⟨⟨z, hz⟩, h0⟩
    rw [hz, Int.cast_nonneg_iff] at h0
    obtain ⟨n, rfl⟩ := Int.eq_ofNat_of_zero_le h0
    exact ⟨n, by simpa using hz⟩
  · rintro ⟨n, hn⟩
    exact ⟨⟨n, by simpa using hn⟩, hn ▸ n.cast_nonneg⟩

/-- A shape where null is allowed too. Its bounds are those of the shape. -/
theorem valid_optional_iff {shape : Shape} (hs : shape.optional.isPlain = true)
    {about : List (String × Json)} (ha : IsAbout about) :
    Valid root (.object (about ++ shape.optional.members about.isEmpty)) v ↔
      shape.optional.Allows (fun name => Valid root (reference name)) v := by
  rw [valid_about_members_iff (by simp) ha, Allows]
  cases shape with
  | string nonEmpty =>
    obtain rfl : nonEmpty = false := by simpa [isPlain] using hs
    simp [members, bounds, typeName, Keyword.ofName, passes_typeName_null_iff, hasType_string_iff,
      Allows]
  | boolean =>
    simp [members, bounds, typeName, Keyword.ofName, passes_typeName_null_iff, hasType_boolean_iff,
      Allows]
  | word32 =>
    simp only [members, List.forall_mem_cons, passes_bounds_word32_iff]
    simp only [typeName, Keyword.ofName, passes_typeName_null_iff, hasType_integer_iff, Allows]
    cases v <;> simp [exists_nat_value_iff]
  | named name =>
    have hnull : Valid root (.object [("type", .string "null")]) v ↔ v = .null := by
      rw [valid_iff_of_keywords (by simp [Keyword.ofName])]
      simp [Keyword.ofName, passes_typeName_iff, hasType_null_iff]
    simp [members, Keyword.ofName, passes_anyOf_iff, hnull, Allows, or_comm]
  | list nonEmpty item => cases hs
  | optional shape => cases hs

/-- The text of a plain shape, whatever is told about it beside, allows the values of the shape. -/
theorem valid_members_iff {shape : Shape} (hs : shape.isPlain = true)
    {about : List (String × Json)} (ha : IsAbout about) :
    Valid root (.object (about ++ shape.members about.isEmpty)) v ↔
      shape.Allows (fun name => Valid root (reference name)) v := by
  induction shape generalizing about v with
  | string nonEmpty =>
    rw [valid_about_members_iff (by simp) ha]
    simp only [members, List.forall_mem_cons, forall_mem_least, Keyword.ofName, passes_typeName_iff,
      hasType_string_iff, passes_minLength_one_iff, Allows]
    cases v <;> simp
  | boolean =>
    rw [valid_about_members_iff (by simp) ha]
    simp [members, Keyword.ofName, passes_typeName_iff, hasType_boolean_iff, Allows]
  | word32 =>
    rw [valid_about_members_iff (by simp) ha]
    simp only [members, List.forall_mem_cons, passes_bounds_word32_iff]
    simp only [Keyword.ofName, passes_typeName_iff, hasType_integer_iff, Allows]
    cases v <;> simp [exists_nat_value_iff]
  | list nonEmpty item ih =>
    have hitem (j : Json) : Valid root (.object (item.members true)) j ↔
        item.Allows (fun name => Valid root (reference name)) j :=
      ih hs (show IsAbout [] from nofun)
    rw [valid_about_members_iff (by simp) ha]
    simp only [members, List.forall_mem_append, List.forall_mem_cons, forall_mem_least,
      Keyword.ofName, passes_typeName_iff, hasType_array_iff, passes_items_iff, hitem,
      passes_minItems_one_iff, Allows]
    cases v <;> simp [and_comm]
  | named name =>
    cases about with
    | nil => exact Iff.rfl
    | cons m about =>
      rw [List.isEmpty_cons, members, if_neg Bool.false_ne_true,
        valid_about_append_iff ha (by simp [Keyword.ofName])]
      simp [Keyword.ofName, passes_allOf_iff, Allows]
  | optional shape => exact valid_optional_iff hs ha

end Shape

variable {root v : Json}

theorem Property.valid_toJson_iff {p : Property} (hp : p.shape.isPlain = true) :
    Valid root p.toJson v ↔ p.shape.Allows (fun name => Valid root (Shape.reference name)) v := by
  exact Shape.valid_members_iff hp ((IsAbout.member rfl _).append (IsAbout.member rfl _))

namespace Definition

def properties : Definition → List Property
  | .record _ properties => properties
  | .enumeration .. => []

/-- Whether members are those of a record: the required ones and no others than its own, with values as it
tells. -/
structure Fits (named : String → Json → Prop) (properties : List Property)
    (os : List (String × Json)) : Prop where
  required : ∀ p ∈ properties, p.required = true → p.name ∈ os.map (·.1)
  known : ∀ m ∈ os, m.1 ∈ properties.map (·.name)
  allows : ∀ p ∈ properties, ∀ j, (p.name, j) ∈ os → p.shape.Allows named j

theorem Fits.allows_of_find? {named : String → Json → Prop} {properties : List Property}
    {os : List (String × Json)} (h : Fits named properties os) {name : String} {p : Property}
    (hp : properties.find? (·.name == name) = some p) {j : Json} (hj : (name, j) ∈ os) :
    p.shape.Allows named j := by
  have hname : p.name = name := by simpa using List.find?_some hp
  exact h.allows p (List.mem_of_find?_eq_some hp) j (hname ▸ hj)

/-- The values of a record. -/
def Admits (named : String → Json → Prop) (properties : List Property) (v : Json) : Prop :=
  ∃ os, v = .object os ∧ Fits named properties os

variable {properties : List Property}

theorem lookup_properties_iff (hnames : (properties.map (·.name)).Nodup) {name : String}
    {schema : Json} :
    (properties.map fun p => (p.name, p.toJson)).lookup name = some schema ↔
      ∃ p ∈ properties, p.name = name ∧ p.toJson = schema := by
  rw [Json.lookup_eq_some_iff_mem (by simpa [Function.comp_def] using hnames)]
  simp

theorem passes_required_record_iff {ms : List (String × Json)} :
    (∀ m ∈ (if (requiredNames properties).isEmpty then []
        else [("required", Json.strings (requiredNames properties))]),
      Passes root ms (.ofName m.1) m.2 v) ↔
      ∀ os, v = .object os → ∀ p ∈ properties, p.required = true → p.name ∈ os.map (·.1) := by
  have hmem (name : String) : name ∈ requiredNames properties ↔
      ∃ p ∈ properties, p.required = true ∧ p.name = name := by
    simp [requiredNames, and_assoc]
  split
  · next he =>
    have hnone : ∀ p ∈ properties, p.required ≠ true := by
      intro p hp hr
      have := (hmem p.name).2 ⟨p, hp, hr, rfl⟩
      simp_all
    simp only [List.not_mem_nil, false_imp_iff, implies_true, true_iff]
    exact fun os _ p hp hr => absurd hr (hnone p hp)
  · simp only [List.forall_mem_singleton, Keyword.ofName, Json.strings, passes_required_iff,
      List.mem_map, Json.string.injEq, exists_eq_right, hmem]
    exact ⟨fun h os ho p hp hr => h os ho p.name ⟨p, hp, hr, rfl⟩,
      fun h os ho name ⟨p, hp, hr, hn⟩ => hn ▸ h os ho p hp hr⟩

/-- The text of a record's definition, whatever is told about it before and behind, allows the values of
the record. -/
theorem valid_record_iff (description : Option String) {before after : List (String × Json)}
    (hb : IsAbout before) (ha : IsAbout after) (hnames : (properties.map (·.name)).Nodup)
    (hplain : ∀ p ∈ properties, p.shape.isPlain = true) :
    Valid root (.object (before ++ (record description properties).members ++ after)) v ↔
      Admits (fun name => Valid root (Shape.reference name)) properties v := by
  have habout : IsAbout (before ++ Json.member "description" (description.map .string)) :=
    hb.append (.member rfl _)
  generalize hwhole : before ++ (record description properties).members ++ after = ms
  have hms : ms = (before ++ Json.member "description" (description.map .string)) ++
      ([("type", .string "object")] ++
        (if (requiredNames properties).isEmpty then []
          else [("required", .strings (requiredNames properties))]) ++
        [("properties", .object (properties.map fun p => (p.name, p.toJson))),
          ("additionalProperties", .bool false)] ++ after) := by
    simp [← hwhole, members]
  have hdeclared : declaredNames ms = properties.map (·.name) := by
    have hlookup : ms.lookup "properties" =
        some (.object (properties.map fun p => (p.name, p.toJson))) := by
      rw [hms, List.lookup_append, habout.lookup_eq_none (by simp [Keyword.ofName])]
      split <;> simp [List.lookup_cons]
    simp [declaredNames, hlookup, Function.comp_def]
  rw [hms, Shape.valid_about_append_iff habout ?_, ← hms]
  · have hafter : ∀ m ∈ after, Passes root ms (.ofName m.1) m.2 v := fun m hm => by
      rw [ha m hm]
      exact .remark
    rw [List.forall_mem_append, and_iff_left hafter]
    simp only [List.forall_mem_append, passes_required_record_iff, List.forall_mem_singleton,
      List.forall_mem_cons]
    simp only [Keyword.ofName, Shape.passes_typeName_iff, hasType_object_iff, passes_properties_iff,
      lookup_properties_iff hnames, passes_additionalProperties_iff, hdeclared, not_valid_false]
    constructor
    · rintro ⟨⟨⟨os, rfl⟩, hrequired⟩, hproperties, hknown⟩
      refine ⟨os, rfl, hrequired os rfl, fun m hm => not_not.1 (hknown os rfl m hm), ?_⟩
      intro p hp j hj
      exact (Property.valid_toJson_iff (hplain p hp)).1 (hproperties os rfl _ hj _ ⟨p, hp, rfl, rfl⟩)
    · rintro ⟨os, rfl, hrequired, hknown, hallows⟩
      refine ⟨⟨⟨os, rfl⟩, ?_⟩, ?_, ?_⟩
      · rintro _ ⟨⟩
        exact hrequired
      · rintro _ ⟨⟩ ⟨_, j⟩ hm _ ⟨p, hp, rfl, rfl⟩
        exact (Property.valid_toJson_iff (hplain p hp)).2 (hallows p hp j hm)
      · rintro _ ⟨⟩ m hm hnone
        exact hnone (hknown m hm)
  · have hafter : ∀ m ∈ after, Keyword.ofName m.1 ≠ .reference := fun m hm => by simp [ha m hm]
    split <;> simpa [or_imp, forall_and, Keyword.ofName] using hafter

theorem valid_enumeration_iff {description : String} {names : List String} :
    Valid root (.object (enumeration description names).members) v ↔
      ∃ name ∈ names, v = .string name := by
  rw [members, valid_iff_of_keywords (by simp [Keyword.ofName])]
  simp only [List.forall_mem_cons, Keyword.ofName, Shape.passes_typeName_iff, hasType_string_iff,
    Json.strings, passes_enum_iff]
  cases v <;> simp

end Definition

namespace Schema

theorem definition?_toJson (s : Schema) (name : String) :
    definition? s.toJson name = (s.definitions.lookup name).map fun d => .object d.members := by
  have hroot : s.root.members.lookup "definitions" = none := by
    cases s.root with
    | record description properties =>
      cases description <;> by_cases he : (Definition.requiredNames properties).isEmpty = true <;>
        simp [Definition.members, Json.member, he]
    | enumeration description names => simp [Definition.members]
  have hmap (ds : List (String × Definition)) :
      (ds.map fun d => (d.1, Json.object d.2.members)).lookup name =
        (ds.lookup name).map fun d => .object d.members := by
    induction ds with
    | nil => rfl
    | cons d ds ih =>
      rw [List.map_cons, List.lookup_cons, List.lookup_cons, ih]
      split <;> rfl
  rw [definition?, toJson, Json.member?, List.lookup_append, List.lookup_append, hroot]
  exact hmap s.definitions

/-- What a name stands for in the text of a schema. -/
def Named (s : Schema) (name : String) (v : Json) : Prop := Valid s.toJson (Shape.reference name) v

variable {s : Schema} {name : String}

theorem named_record_iff {description : Option String} {properties : List Property}
    (hd : s.definitions.lookup name = some (.record description properties))
    (hnames : (properties.map (·.name)).Nodup) (hplain : ∀ p ∈ properties, p.shape.isPlain = true) :
    s.Named name v ↔ Definition.Admits s.Named properties v := by
  rw [Named, Shape.reference, ← pointer, valid_reference_iff (by rw [definition?_toJson, hd]; rfl)]
  have habout : IsAbout [] := by simp [IsAbout]
  have h : Valid s.toJson (.object ([] ++ _ ++ [])) v ↔ _ :=
    Definition.valid_record_iff description habout habout hnames hplain
  rw [List.append_nil] at h
  exact h

theorem named_enumeration_iff {description : String} {names : List String}
    (hd : s.definitions.lookup name = some (.enumeration description names)) :
    s.Named name v ↔ ∃ name ∈ names, v = .string name := by
  rw [Named, Shape.reference, ← pointer, valid_reference_iff (by rw [definition?_toJson, hd]; rfl)]
  exact Definition.valid_enumeration_iff

theorem valid_toJson_iff {description : Option String} {properties : List Property}
    (hroot : s.root = .record description properties) (hnames : (properties.map (·.name)).Nodup)
    (hplain : ∀ p ∈ properties, p.shape.isPlain = true) :
    Valid s.toJson s.toJson v ↔ Definition.Admits s.Named properties v := by
  have hbefore : IsAbout
      [("$schema", .string "http://json-schema.org/draft-07/schema#"), ("title", .string s.title)] := by
    simp [IsAbout, Keyword.ofName]
  have hafter : IsAbout
      [("definitions", .object (s.definitions.map fun d => (d.1, .object d.2.members)))] := by
    simp [IsAbout, Keyword.ofName]
  have h : Valid s.toJson _ v ↔ _ :=
    Definition.valid_record_iff description hbefore hafter hnames hplain
  rw [← hroot] at h
  exact h

end Schema

end SmokeSuite
