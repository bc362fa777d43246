import TransitBpp.Js
import Mathlib.Data.List.Basic

/-!
# JSON schemas

The keywords of JSON Schema, draft 2020-12, as tests of a value. A keyword about one type of value
accepts every value of another, and a schema with several keywords is all of them; a `$ref` is the
schema it names. Each keyword has a lemma that says what it asks of a value of its type.
-/

namespace JsonSchema

open Js

/-- A schema, as the values it accepts. -/
abbrev Schema : Type := Json → Bool

/-! ## Combining schemas -/

/-- `allOf`, and the keywords of one schema. -/
def allOf (schemas : List Schema) : Schema := fun value => schemas.all fun schema => schema value

/-- `anyOf`. -/
def anyOf (schemas : List Schema) : Schema := fun value => schemas.any fun schema => schema value

/-- `oneOf`. -/
def oneOf (schemas : List Schema) : Schema := fun value =>
  (schemas.filter fun schema => schema value).length = 1

variable {schema : Schema} {schemas : List Schema} {value : Json} {fields : List (String × Json)}
variable {values : List Json} {s : String} {q : ℚ} {keys : List String} {key : String}

@[simp] theorem allOf_nil : allOf [] value = true := rfl

@[simp] theorem allOf_cons :
    allOf (schema :: schemas) value = true ↔ schema value = true ∧ allOf schemas value = true := by
  simp [allOf]

theorem anyOf_iff : anyOf schemas value = true ↔ ∃ schema ∈ schemas, schema value = true := by
  simp [anyOf]

/-- It is one of them, and none of those before or after. -/
theorem oneOf_append {before after : List Schema} (h : schema value = true)
    (hothers : ∀ other ∈ before ++ after, other value = false) :
    oneOf (before ++ schema :: after) value = true := by
  have hnone (others : List Schema) (hsub : ∀ other ∈ others, other ∈ before ++ after) :
      (others.filter fun schema => schema value) = [] :=
    List.filter_eq_nil_iff.mpr fun other hother => by simp [hothers other (hsub other hother)]
  have hbefore := hnone before fun other hother => List.mem_append_left after hother
  have hafter := hnone after fun other hother => List.mem_append_right before hother
  simp [oneOf, h, hbefore, hafter]

/-! ## Any value -/

/-- The types of JSON Schema. -/
inductive JsonType : Type where
  | object | array | string | boolean | integer
  deriving DecidableEq, Repr

/-- `type`. -/
def type : JsonType → Schema
  | .object, .obj _ => true
  | .array, .arr _ => true
  | .string, .str _ => true
  | .boolean, .bool _ => true
  | .integer, .num q => q.den = 1
  | _, _ => false

/-- `"type": "number"`. -/
def number : Schema
  | .num _ => true
  | _ => false

/-- `const`, of a string. -/
def const (expected : String) : Schema := fun value => value.str? = some expected

/-- `enum`, of strings. -/
def enum (expected : List String) : Schema := fun value => value.str?.any fun s => s ∈ expected

@[simp] theorem type_object : type .object (.obj fields) = true := rfl

@[simp] theorem type_array : type .array (.arr values) = true := rfl

@[simp] theorem type_string : type .string (.str s) = true := rfl

@[simp] theorem type_boolean {b : Bool} : type .boolean (.bool b) = true := rfl

@[simp] theorem type_integer {n : ℤ} : type .integer (.num n) = true := rfl

@[simp] theorem number_num : number (.num q) = true := rfl

@[simp] theorem const_str : const key (.str s) = true ↔ s = key := by
  simp [const, Json.str?]

@[simp] theorem enum_str : enum keys (.str s) = true ↔ s ∈ keys := by
  simp [enum, Json.str?]

theorem type_object_iff : type .object value = true ↔ ∃ fields, value = .obj fields := by
  cases value <;> simp [type]

theorem type_array_iff : type .array value = true ↔ ∃ values, value = .arr values := by
  cases value <;> simp [type]

theorem type_string_iff : type .string value = true ↔ ∃ s, value = .str s := by
  cases value <;> simp [type]

theorem const_iff : const key value = true ↔ value = .str key := by
  cases value <;> simp [const, Json.str?]

/-! ## Strings -/

/-- `minLength`, in characters. -/
def minLength (n : ℕ) : Schema
  | .str s => n ≤ s.toList.length
  | _ => true

/-- `pattern`, as the strings the expression matches. -/
def pattern (matched : String → Bool) : Schema
  | .str s => matched s
  | _ => true

/-- `format`, as the strings the validator takes for one of it. -/
def format (matched : String → Bool) : Schema := pattern matched

/-- A string that is not empty. -/
def nonEmpty : Schema := allOf [type .string, minLength 1]

@[simp] theorem minLength_one : minLength 1 (.str s) = true ↔ s ≠ "" := by
  rw [minLength, decide_eq_true_eq, Nat.one_le_iff_ne_zero, Ne, List.length_eq_zero_iff,
    String.toList_eq_nil_iff]

@[simp] theorem nonEmpty_str : nonEmpty (.str s) = true ↔ s ≠ "" := by
  simp [nonEmpty]

theorem nonEmpty_iff : nonEmpty value = true ↔ ∃ s, value = .str s ∧ s ≠ "" := by
  cases value <;> simp [nonEmpty, type]

@[simp] theorem pattern_str {matched : String → Bool} :
    pattern matched (.str s) = matched s := rfl

@[simp] theorem format_str {matched : String → Bool} :
    format matched (.str s) = matched s := rfl

/-! ## Numbers -/

/-- `minimum`. -/
def minimum (bound : ℤ) : Schema
  | .num q => bound ≤ q
  | _ => true

/-- `maximum`. -/
def maximum (bound : ℤ) : Schema
  | .num q => q ≤ bound
  | _ => true

@[simp] theorem minimum_num {bound : ℤ} : minimum bound (.num q) = true ↔ bound ≤ q := by
  simp [minimum]

@[simp] theorem maximum_num {bound : ℤ} : maximum bound (.num q) = true ↔ q ≤ bound := by
  simp [maximum]

/-! ## Arrays -/

/-- `items`. -/
def items (schema : Schema) : Schema
  | .arr values => values.all fun value => schema value
  | _ => true

/-- `minItems`. -/
def minItems (n : ℕ) : Schema
  | .arr values => n ≤ values.length
  | _ => true

/-- `maxItems`. -/
def maxItems (n : ℕ) : Schema
  | .arr values => values.length ≤ n
  | _ => true

/-- `contains`. -/
def contains (schema : Schema) : Schema
  | .arr values => values.any fun value => schema value
  | _ => true

@[simp] theorem items_arr : items schema (.arr values) = true ↔ ∀ v ∈ values, schema v = true := by
  simp [items]

@[simp] theorem minItems_arr {n : ℕ} : minItems n (.arr values) = true ↔ n ≤ values.length := by
  simp [minItems]

@[simp] theorem maxItems_arr {n : ℕ} : maxItems n (.arr values) = true ↔ values.length ≤ n := by
  simp [maxItems]

@[simp] theorem contains_arr :
    contains schema (.arr values) = true ↔ ∃ v ∈ values, schema v = true := by
  simp [contains]

/-! ## Objects -/

/-- `required`. -/
def required (keys : List String) : Schema
  | .obj fields => keys.all fun key => ((Json.obj fields).get? key).isSome
  | _ => true

/-- One entry of `properties`. -/
def property (key : String) (schema : Schema) : Schema
  | .obj fields => ((Json.obj fields).get? key).all fun value => schema value
  | _ => true

/-- `properties`. -/
def properties (entries : List (String × Schema)) : Schema :=
  allOf (entries.map fun entry => property entry.1 entry.2)

/-- `"additionalProperties": false`, beside `properties` with these keys. -/
def noOther (keys : List String) : Schema
  | .obj fields => fields.all fun field => field.1 ∈ keys
  | _ => true

/-- An object with `required` and `properties`. -/
def object (keys : List String) (entries : List (String × Schema)) : Schema :=
  allOf [type .object, required keys, properties entries]

/-- An array with `items`. -/
def array (schema : Schema) : Schema := allOf [type .array, items schema]

@[simp] theorem required_obj : required keys (.obj fields) = true ↔
    ∀ key ∈ keys, ∃ value, (Json.obj fields).get? key = some value := by
  simp [required, Option.isSome_iff_exists]

theorem property_obj : property key schema (.obj fields) = true ↔
    ∀ value, (Json.obj fields).get? key = some value → schema value = true := by
  rcases h : (Json.obj fields).get? key with _ | v <;> simp [property, h]

/-- A property that is there. -/
theorem property_of_get (h : (Json.obj fields).get? key = some value) :
    property key schema (.obj fields) = true ↔ schema value = true := by
  simp [property, h]

/-- A property that is not there. -/
theorem property_of_none (h : (Json.obj fields).get? key = none) :
    property key schema (.obj fields) = true := by
  simp [property, h]

/-- Properties of one object tell nothing of those of another that agrees on their keys. -/
theorem property_congr {fields' : List (String × Json)}
    (h : (Json.obj fields).get? key = (Json.obj fields').get? key) :
    property key schema (.obj fields) = property key schema (.obj fields') := by
  simp [property, h]

@[simp] theorem properties_nil : properties [] value = true := rfl

@[simp] theorem properties_cons {entries : List (String × Schema)} :
    properties ((key, schema) :: entries) value = true ↔
      property key schema value = true ∧ properties entries value = true := by
  simp [properties]

@[simp] theorem noOther_obj :
    noOther keys (.obj fields) = true ↔ ∀ field ∈ fields, field.1 ∈ keys := by
  simp [noOther]

@[simp] theorem object_obj {entries : List (String × Schema)} :
    object keys entries (.obj fields) = true ↔
      (∀ key ∈ keys, ∃ value, (Json.obj fields).get? key = some value) ∧
        properties entries (.obj fields) = true := by
  simp [object]

@[simp] theorem array_arr : array schema (.arr values) = true ↔ ∀ v ∈ values, schema v = true := by
  simp [array]

theorem properties_iff {entries : List (String × Schema)} : properties entries value = true ↔
    ∀ entry ∈ entries, property entry.1 entry.2 value = true := by
  simp [properties, allOf]

/-- What an object schema accepts is an object, and has the fields it requires. -/
theorem get_of_required {entries : List (String × Schema)} (h : object keys entries value = true)
    (hkey : key ∈ keys) : ∃ v, value.get? key = some v := by
  obtain ⟨htype, hrequired, -⟩ : _ ∧ _ ∧ _ := by simpa [object] using h
  obtain ⟨fields, rfl⟩ := type_object_iff.mp htype
  exact required_obj.mp hrequired key hkey

/-- A field an object schema describes is as described. -/
theorem accepts_of_get {entries : List (String × Schema)} (h : object keys entries value = true)
    (hentry : (key, schema) ∈ entries) {v : Json} (hv : value.get? key = some v) :
    schema v = true := by
  obtain ⟨htype, -, hproperties⟩ : _ ∧ _ ∧ _ := by simpa [object] using h
  obtain ⟨fields, rfl⟩ := type_object_iff.mp htype
  exact property_obj.mp (properties_iff.mp hproperties _ hentry) v hv

/-- An object is refused for one of its fields. -/
theorem object_refuses {entries : List (String × Schema)} (hentry : (key, schema) ∈ entries)
    {v : Json}
    (hget : value.get? key = some v) (hv : schema v = false) : object keys entries value = false := by
  rw [Bool.eq_false_iff]
  intro h
  rw [accepts_of_get h hentry hget] at hv
  cases hv

/-- An object has all the fields described, and they are as described. -/
theorem object_of_each {entries : List (String × Schema)}
    (hkeys : ∀ key ∈ keys, key ∈ entries.map Prod.fst)
    (h : ∀ entry ∈ entries, ∃ v, (Json.obj fields).get? entry.1 = some v ∧ entry.2 v = true) :
    object keys entries (.obj fields) = true := by
  refine object_obj.mpr ⟨fun key hkey => ?_, properties_iff.mpr fun entry hentry => ?_⟩
  · obtain ⟨entry, hentry, rfl⟩ := List.mem_map.mp (hkeys key hkey)
    obtain ⟨v, hv, -⟩ := h entry hentry
    exact ⟨v, hv⟩
  · obtain ⟨v, hv, haccepts⟩ := h entry hentry
    exact (property_of_get hv).mpr haccepts

end JsonSchema
