import SmokeSuite.Json.Basic
import Mathlib.Algebra.Order.Field.Power
import Mathlib.Data.Rat.Cast.Order

namespace SmokeSuite

/-- The number that a decimal writes. -/
def Decimal.value (d : Decimal) : ℚ := (if d.negative then -1 else 1) * d.digits * 10 ^ d.exponent

/-- Where no two members have one name, looking up a name finds its member. -/
theorem Json.lookup_eq_some_iff_mem {α : Type} {ms : List (String × α)} (h : (ms.map (·.1)).Nodup)
    {name : String} {x : α} : ms.lookup name = some x ↔ (name, x) ∈ ms := by
  induction ms with
  | nil => simp
  | cons m ms ih =>
    obtain ⟨hnew, hms⟩ := List.nodup_cons.1 h
    rw [List.lookup_cons, List.mem_cons, ← ih hms, Prod.ext_iff]
    by_cases hn : name = m.1
    · have hnone : ms.lookup name ≠ some x := by
        rw [Ne, ih hms]
        exact fun hm => hnew (List.mem_map.2 ⟨_, hm, hn⟩)
      simp [hn, hn ▸ hnone, eq_comm]
    · simp [hn, beq_false_of_ne hn]

namespace JsonSchema

inductive Keyword where
  | reference
  | type
  | enum
  | minimum
  | minLength
  | minItems
  | items
  | required
  | properties
  | additionalProperties
  | allOf
  | anyOf
  /-- A keyword that asks for nothing. -/
  | remark
  deriving DecidableEq

def Keyword.ofName : String → Keyword
  | "$ref" => .reference
  | "type" => .type
  | "enum" => .enum
  | "minimum" => .minimum
  | "minLength" => .minLength
  | "minItems" => .minItems
  | "items" => .items
  | "required" => .required
  | "properties" => .properties
  | "additionalProperties" => .additionalProperties
  | "allOf" => .allOf
  | "anyOf" => .anyOf
  | _ => .remark

/-- Whether a value is of a type with a name. A whole number is both an integer and a number. -/
def HasType (name : String) : Json → Prop
  | .null => name = "null"
  | .bool _ => name = "boolean"
  | .number d => name = "number" ∨ (name = "integer" ∧ ∃ z : ℤ, d.value = z)
  | .string _ => name = "string"
  | .array _ => name = "array"
  | .object _ => name = "object"

section HasType

variable {v : Json}

theorem hasType_boolean_iff : HasType "boolean" v ↔ ∃ b, v = .bool b := by
  cases v <;> simp [HasType]

theorem hasType_integer_iff : HasType "integer" v ↔ ∃ d, v = .number d ∧ ∃ z : ℤ, d.value = z := by
  cases v <;> simp [HasType]

theorem hasType_string_iff : HasType "string" v ↔ ∃ s, v = .string s := by
  cases v <;> simp [HasType]

theorem hasType_array_iff : HasType "array" v ↔ ∃ js, v = .array js := by
  cases v <;> simp [HasType]

theorem hasType_object_iff : HasType "object" v ↔ ∃ os, v = .object os := by
  cases v <;> simp [HasType]

theorem hasType_null_iff : HasType "null" v ↔ v = .null := by
  cases v <;> simp [HasType]

end HasType

/-- The types that a schema names, one or several. -/
def typeNames : Json → List Json
  | .array names => names
  | name => [name]

/-- The names whose members a schema tells more about. -/
def declaredNames (ms : List (String × Json)) : List String :=
  match ms.lookup "properties" with
  | some (.object ps) => ps.map (·.1)
  | _ => []

def pointer (name : String) : String := "#/definitions/" ++ name

def definition? (root : Json) (name : String) : Option Json :=
  (root.member? "definitions").bind (·.member? name)

mutual

/-- Whether a schema allows a value, in a document with definitions. What stands beside a reference does
not count. -/
inductive Valid (root : Json) : Json → Json → Prop
  | anything {v : Json} : Valid root (.bool true) v
  | reference {ms : List (String × Json)} {name : String} {target v : Json}
      (href : ms.lookup "$ref" = some (.string (pointer name)))
      (htarget : definition? root name = some target) (h : Valid root target v) :
      Valid root (.object ms) v
  | keywords {ms : List (String × Json)} {v : Json} (href : ms.lookup "$ref" = none)
      (h : ∀ m ∈ ms, Passes root ms (.ofName m.1) m.2 v) : Valid root (.object ms) v

/-- Whether a value is as a keyword with an argument asks, among the members of its schema. Most keywords
ask something of values of one type only. -/
inductive Passes (root : Json) : List (String × Json) → Keyword → Json → Json → Prop
  | type {ms : List (String × Json)} {arg v : Json} {name : String}
      (hname : .string name ∈ typeNames arg) (h : HasType name v) : Passes root ms .type arg v
  | enum {ms : List (String × Json)} {options : List Json} {v : Json} (h : v ∈ options) :
      Passes root ms .enum (.array options) v
  | minimum {ms : List (String × Json)} {bound : Decimal} {v : Json}
      (h : ∀ d, v = .number d → bound.value ≤ d.value) : Passes root ms .minimum (.number bound) v
  | minLength {ms : List (String × Json)} {n : Decimal} {v : Json}
      (h : ∀ s, v = .string s → n.value ≤ s.length) : Passes root ms .minLength (.number n) v
  | minItems {ms : List (String × Json)} {n : Decimal} {v : Json}
      (h : ∀ js, v = .array js → n.value ≤ js.length) : Passes root ms .minItems (.number n) v
  | items {ms : List (String × Json)} {schema v : Json}
      (h : ∀ js, v = .array js → ∀ j ∈ js, Valid root schema j) : Passes root ms .items schema v
  | required {ms : List (String × Json)} {names : List Json} {v : Json}
      (h : ∀ os, v = .object os → ∀ name, .string name ∈ names → name ∈ os.map (·.1)) :
      Passes root ms .required (.array names) v
  | properties {ms ps : List (String × Json)} {v : Json}
      (h : ∀ os, v = .object os → ∀ m ∈ os, ∀ schema, ps.lookup m.1 = some schema →
        Valid root schema m.2) : Passes root ms .properties (.object ps) v
  | additionalProperties {ms : List (String × Json)} {schema v : Json}
      (h : ∀ os, v = .object os → ∀ m ∈ os, m.1 ∉ declaredNames ms → Valid root schema m.2) :
      Passes root ms .additionalProperties schema v
  | allOf {ms : List (String × Json)} {schemas : List Json} {v : Json}
      (h : ∀ schema ∈ schemas, Valid root schema v) : Passes root ms .allOf (.array schemas) v
  | anyOf {ms : List (String × Json)} {schemas : List Json} {schema v : Json}
      (hschema : schema ∈ schemas) (h : Valid root schema v) : Passes root ms .anyOf (.array schemas) v
  | remark {ms : List (String × Json)} {arg v : Json} : Passes root ms .remark arg v

end

variable {root v : Json} {ms : List (String × Json)}

theorem not_valid_false : ¬ Valid root (.bool false) v := nofun

theorem valid_iff_of_keywords (href : ∀ m ∈ ms, Keyword.ofName m.1 ≠ .reference) :
    Valid root (.object ms) v ↔ ∀ m ∈ ms, Passes root ms (.ofName m.1) m.2 v := by
  have hnone : ms.lookup "$ref" = none := by
    refine List.lookup_eq_none_iff.2 fun m hm => ?_
    rw [bne_iff_ne]
    rintro he
    exact href m hm (by rw [← he]; rfl)
  constructor
  · intro h
    cases h with
    | reference hsome => rw [hnone] at hsome; cases hsome
    | keywords _ h => exact h
  · exact .keywords hnone

theorem valid_reference_iff {name : String} {target : Json}
    (htarget : definition? root name = some target) :
    Valid root (.object [("$ref", .string (pointer name))]) v ↔ Valid root target v := by
  constructor
  · intro h
    cases h with
    | reference href ht h =>
      have hname : _ = pointer _ := Json.string.inj (Option.some.inj href)
      rw [pointer, pointer, String.append_right_inj] at hname
      subst hname
      rw [htarget] at ht
      rwa [Option.some.inj ht]
    | keywords href => cases href
  · exact .reference rfl htarget

@[simp] theorem passes_remark {arg : Json} : Passes root ms .remark arg v := .remark

theorem passes_type_iff {arg : Json} :
    Passes root ms .type arg v ↔ ∃ name, .string name ∈ typeNames arg ∧ HasType name v :=
  ⟨fun h => by cases h with | type hname h => exact ⟨_, hname, h⟩,
    fun ⟨_, hname, h⟩ => .type hname h⟩

theorem passes_enum_iff {options : List Json} :
    Passes root ms .enum (.array options) v ↔ v ∈ options :=
  ⟨fun h => by cases h with | enum h => exact h, .enum⟩

theorem passes_minimum_iff {bound : Decimal} :
    Passes root ms .minimum (.number bound) v ↔ ∀ d, v = .number d → bound.value ≤ d.value :=
  ⟨fun h => by cases h with | minimum h => exact h, .minimum⟩

theorem passes_minLength_iff {n : Decimal} :
    Passes root ms .minLength (.number n) v ↔ ∀ s, v = .string s → n.value ≤ s.length :=
  ⟨fun h => by cases h with | minLength h => exact h, .minLength⟩

theorem passes_minItems_iff {n : Decimal} :
    Passes root ms .minItems (.number n) v ↔ ∀ js, v = .array js → n.value ≤ js.length :=
  ⟨fun h => by cases h with | minItems h => exact h, .minItems⟩

theorem passes_items_iff {schema : Json} :
    Passes root ms .items schema v ↔ ∀ js, v = .array js → ∀ j ∈ js, Valid root schema j :=
  ⟨fun h => by cases h with | items h => exact h, .items⟩

theorem passes_required_iff {names : List Json} :
    Passes root ms .required (.array names) v ↔
      ∀ os, v = .object os → ∀ name, .string name ∈ names → name ∈ os.map (·.1) :=
  ⟨fun h => by cases h with | required h => exact h, .required⟩

theorem passes_properties_iff {ps : List (String × Json)} :
    Passes root ms .properties (.object ps) v ↔
      ∀ os, v = .object os → ∀ m ∈ os, ∀ schema, ps.lookup m.1 = some schema →
        Valid root schema m.2 :=
  ⟨fun h => by cases h with | properties h => exact h, .properties⟩

theorem passes_additionalProperties_iff {schema : Json} :
    Passes root ms .additionalProperties schema v ↔
      ∀ os, v = .object os → ∀ m ∈ os, m.1 ∉ declaredNames ms → Valid root schema m.2 :=
  ⟨fun h => by cases h with | additionalProperties h => exact h, .additionalProperties⟩

theorem passes_allOf_iff {schemas : List Json} :
    Passes root ms .allOf (.array schemas) v ↔ ∀ schema ∈ schemas, Valid root schema v :=
  ⟨fun h => by cases h with | allOf h => exact h, .allOf⟩

theorem passes_anyOf_iff {schemas : List Json} :
    Passes root ms .anyOf (.array schemas) v ↔ ∃ schema ∈ schemas, Valid root schema v :=
  ⟨fun h => by cases h with | anyOf hs h => exact ⟨_, hs, h⟩, fun ⟨_, hs, h⟩ => .anyOf hs h⟩

end JsonSchema

end SmokeSuite
