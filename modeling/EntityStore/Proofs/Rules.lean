import EntityStore.Proofs.Declared
import Mathlib.Data.List.Nodup

/-!
# What the rules of an entity ask of a row

A rule says what its attribute may hold, and whether it may be missing (`AttributeRule.Holds`). A new
row passes the check when every rule holds of it (`Validator.validate_create_iff`); a change passes
when every value that it sets is admitted (`Validator.validate_update_iff`). A change that passes
leaves a row that keeps the rules a row that keeps them (`Validator.Holds.merge`). The columns that
writes maintain by themselves have no rules, since no two columns of a compiled entity have one name
(`Schema.Compiles.ignores`).
-/

namespace EntityStore

namespace AttributeRule

/-- A value has the type of the attribute, is among its texts, keeps its bounds and matches its
pattern. -/
structure Fits (rule : AttributeRule) (v : Value) : Prop where
  type : rule.type.accepts v = true
  values : rule.type = .enum → rule.values ≠ [] → ∃ s ∈ rule.values, v = .text s
  min : ∀ low x, rule.min = some low → measure? v = some x → x.lt low = false
  max : ∀ high x, rule.max = some high → measure? v = some x → high.lt x = false
  pattern : ∀ source p s, rule.pattern = some (source, p) → v = .text s → p.occursIn s = true

/-- Null needs a rule that allows it; any other value has to fit. -/
def Admits (rule : AttributeRule) (v : Value) : Prop :=
  if v.isNull then rule.required = false ∧ rule.nullable = true else rule.Fits v

/-- The rule holds of what a row says about the attribute. -/
def Holds (rule : AttributeRule) : Option Value → Prop
  | none => rule.required = false
  | some v => rule.Admits v

theorem outsideValues_eq_false {rule : AttributeRule} {v : Value} :
    rule.outsideValues v = false ↔
      (rule.type = .enum → rule.values ≠ [] → ∃ s ∈ rule.values, v = .text s) := by
  unfold outsideValues
  cases v <;> simp [Value.asText?]

theorem boundFailures_eq_nil {rule : AttributeRule} {name : String} {v : Value} :
    rule.boundFailures name v = [] ↔
      (∀ low x, rule.min = some low → measure? v = some x → x.lt low = false) ∧
        ∀ high x, rule.max = some high → measure? v = some x → high.lt x = false := by
  unfold boundFailures
  cases measure? v with
  | none => simp
  | some x => cases rule.min <;> cases rule.max <;> simp

theorem patternFailures_eq_nil {rule : AttributeRule} {name : String} {v : Value} :
    rule.patternFailures name v = [] ↔
      ∀ source p s, rule.pattern = some (source, p) → v = .text s → p.occursIn s = true := by
  unfold patternFailures
  cases rule.pattern with
  | none => simp
  | some pattern => cases v <;> simp [Prod.ext_iff]

/-- A rule finds nothing wrong with exactly the values that it admits. -/
theorem failures_eq_nil {rule : AttributeRule} {name : String} {v : Value} :
    rule.failures name v = [] ↔ rule.Admits v := by
  unfold failures Admits
  by_cases null : v.isNull = true
  · simp [null]
  · rw [if_neg null, if_neg null]
    cases accepted : rule.type.accepts v with
    | false =>
      simp only [Bool.not_false, if_true, List.cons_ne_nil, false_iff]
      intro fits
      exact absurd fits.type (by simp [accepted])
    | true =>
      simp only [Bool.not_true, Bool.false_eq_true, if_false, List.append_eq_nil_iff,
        boundFailures_eq_nil, patternFailures_eq_nil, ite_eq_right_iff, List.cons_ne_nil, imp_false,
        Bool.not_eq_true, outsideValues_eq_false]
      constructor
      · rintro ⟨⟨values, min, max⟩, pattern⟩
        exact ⟨accepted, values, min, max, pattern⟩
      · intro fits
        exact ⟨⟨fits.values, fits.min, fits.max⟩, fits.pattern⟩

end AttributeRule

namespace Validator

variable {validator : Validator} {row values : Row}

/-- Every rule holds of the row. -/
def Holds (validator : Validator) (row : Row) : Prop :=
  ∀ name rule, (name, rule) ∈ validator.rules → rule.Holds (row.get? name)

/-- Every value is admitted by the rule of its attribute. -/
def Admits (validator : Validator) (values : Row) : Prop :=
  ∀ name rule v, (name, rule) ∈ validator.rules → values.get? name = some v → rule.Admits v

theorem validate_eq_ok {mode : WriteMode} :
    validator.validate row mode = .ok () ↔ validator.failures row mode = [] := by
  unfold validate
  simp only [List.isEmpty_iff]
  split <;> simp_all

/-- A new row passes the check when every rule holds of it. -/
theorem validate_create_iff : validator.validate row .create = .ok () ↔ validator.Holds row := by
  rw [validate_eq_ok, failures, List.flatMap_eq_nil_iff, Prod.forall]
  apply forall₃_congr
  intro name rule _
  simp only
  cases row.get? name with
  | none => simp [AttributeRule.Holds]
  | some v => exact AttributeRule.failures_eq_nil

/-- A change passes the check when every value that it sets is admitted. -/
theorem validate_update_iff : validator.validate values .update = .ok () ↔ validator.Admits values := by
  rw [validate_eq_ok, failures, List.flatMap_eq_nil_iff, Prod.forall]
  apply forall₂_congr
  intro name rule
  simp only
  cases values.get? name with
  | none => simp
  | some v => simp [AttributeRule.failures_eq_nil]

/-- What the rules say is kept by a change that they admit: it sets no attribute to what its rule
refuses, and removes none. -/
theorem Holds.merge (h : validator.Holds row) (admitted : validator.Admits values) :
    validator.Holds (row.merge values) := by
  intro name rule mem
  rw [Row.get?_merge]
  cases set : values.get? name with
  | none => exact h name rule mem
  | some v => exact admitted name rule v mem set

/-- The column has no rule. -/
def Ignores (validator : Validator) (column : String) : Prop :=
  ∀ rule, (column, rule) ∉ validator.rules

theorem Ignores.ne {column name : String} {rule : AttributeRule} (ignored : validator.Ignores column)
    (mem : (name, rule) ∈ validator.rules) : name ≠ column := by
  rintro rfl
  exact ignored rule mem

theorem Holds.insert {column : String} (h : validator.Holds row)
    (ignored : validator.Ignores column) (v : Value) : validator.Holds (row.insert column v) := by
  intro name rule mem
  rw [Row.get?_insert_of_ne row v (ignored.ne mem)]
  exact h name rule mem

theorem Holds.insertNew {column : String} (h : validator.Holds row)
    (ignored : validator.Ignores column) (v : Value) : validator.Holds (row.insertNew column v) := by
  unfold Row.insertNew
  split
  · exact h
  · exact h.insert ignored v

theorem Admits.insert {column : String} (h : validator.Admits values)
    (ignored : validator.Ignores column) (v : Value) :
    validator.Admits (values.insert column v) := by
  intro name rule w mem
  rw [Row.get?_insert_of_ne values v (ignored.ne mem)]
  exact h name rule w mem

/-- The rules of a validator are those of the attributes. -/
theorem mem_rules_iff {entity name : String} {attributes : List (String × Attribute)}
    {rule : AttributeRule} (made : ofAttributes entity attributes = .ok validator) :
    (name, rule) ∈ validator.rules ↔
      ∃ a, (name, a) ∈ attributes ∧ AttributeRule.ofAttribute entity name a = .ok rule := by
  unfold ofAttributes at made
  obtain ⟨rules, all, made⟩ := Except.bind_eq_ok.1 made
  cases made
  rw [Except.mem_of_mapM all]
  constructor
  · rintro ⟨⟨name, a⟩, mem, paired⟩
    obtain ⟨rule, compiled, paired⟩ := Except.bind_eq_ok.1 paired
    cases paired
    exact ⟨a, mem, compiled⟩
  · rintro ⟨a, mem, compiled⟩
    exact ⟨(name, a), mem, Except.bind_eq_ok.2 ⟨rule, compiled, rfl⟩⟩

/-- Every attribute has its rule. -/
theorem exists_rule {entity name : String} {attributes : List (String × Attribute)} {a : Attribute}
    (made : ofAttributes entity attributes = .ok validator) (mem : (name, a) ∈ attributes) :
    ∃ rule, AttributeRule.ofAttribute entity name a = .ok rule ∧ (name, rule) ∈ validator.rules := by
  have all := made
  unfold ofAttributes at all
  obtain ⟨rules, all, -⟩ := Except.bind_eq_ok.1 all
  obtain ⟨pair, -, paired⟩ := Except.ok_of_mapM all mem
  obtain ⟨rule, compiled, -⟩ := Except.bind_eq_ok.1 paired
  exact ⟨rule, compiled, (mem_rules_iff made).2 ⟨a, mem, compiled⟩⟩

end Validator

namespace Schema

/-- The columns of a table are listed only when no two of them have one name. -/
theorem addColumns_eq_ok {entity : String} {done rest columns : List Column}
    (added : addColumns entity done rest = .ok columns) (apart : (done.map (·.name)).Nodup) :
    columns = done ++ rest ∧ (columns.map (·.name)).Nodup := by
  induction rest generalizing done with
  | nil =>
    cases added
    exact ⟨(List.append_nil _).symm, apart⟩
  | cons column rest ih =>
    unfold addColumns at added
    split at added
    · cases added
    · next fresh =>
      obtain ⟨all, names⟩ := ih added (List.nodup_map_append apart fresh)
      exact ⟨by rw [all, List.append_assoc, List.singleton_append], names⟩

theorem columns_eq_ok {s : Schema} {columns : List Column} (made : s.columns = .ok columns) :
    columns = s.allColumns ∧ (columns.map (·.name)).Nodup := by
  have listed := addColumns_eq_ok made List.nodup_nil
  rwa [List.nil_append] at listed

/-- The columns that an insertion or an update sets by itself. -/
def maintained (s : Schema) : List Column :=
  ⟨s.primaryKeyName, .integer, false, .primaryKey⟩ ::
    columnIf s.traits.uuid "uuid" .uuid .uuid ++
    columnIf s.traits.timestamps "created_at" .timestamp .timestamp ++
    columnIf s.traits.timestamps "updated_at" .timestamp .timestamp

/-- Where no two columns have one name, none that is maintained is a declared attribute. -/
theorem name_ne_of_maintained {s : Schema} {columns : List Column} (made : s.columns = .ok columns)
    {column : Column} (mem : column ∈ s.maintained) {declared : String × Attribute}
    (member : declared ∈ s.attributes) : declared.1 ≠ column.name := by
  intro same
  obtain ⟨rfl, apart⟩ := columns_eq_ok made
  have there : column ∈ s.allColumns := by
    simp only [maintained, List.cons_append, List.mem_cons, List.mem_append] at mem
    simp only [allColumns, List.cons_append, List.mem_cons, List.mem_append]
    tauto
  have declaredThere : attributeColumn declared ∈ s.allColumns := by
    have := List.mem_map_of_mem (f := attributeColumn) member
    simp only [allColumns, List.cons_append, List.mem_cons, List.mem_append]
    tauto
  have one : attributeColumn declared = column :=
    List.inj_on_of_nodup_map apart declaredThere there same
  have source : column.source = .declared := by rw [← one]; rfl
  simp only [maintained, columnIf, List.cons_append, List.mem_cons, List.mem_append] at mem
  rcases mem with rfl | (mem | mem) | mem
  · cases source
  all_goals
    split at mem
    · rw [List.mem_singleton.1 mem] at source
      cases source
    · cases mem

/-- The row keeps the rule of every declared attribute. -/
def Satisfied (s : Schema) (row : Row) : Prop :=
  ∀ name a, (name, a) ∈ s.attributes →
    ∃ rule, AttributeRule.ofAttribute s.name name a = .ok rule ∧ rule.Holds (row.get? name)

variable {s : Schema} {resolver : RelationResolver} {m : Model}

/-- What the rules of a model say of a row, its schema says. -/
theorem Compiles.satisfied (h : s.Compiles resolver m) {row : Row} (holds : m.validator.Holds row) :
    s.Satisfied row := by
  intro name a mem
  obtain ⟨rule, compiled, member⟩ := Validator.exists_rule h.validator mem
  exact ⟨rule, compiled, holds name rule member⟩

/-- The columns that writes maintain have no rules. -/
theorem Compiles.ignores (h : s.Compiles resolver m) {column : Column} (mem : column ∈ s.maintained) :
    m.validator.Ignores column.name := by
  intro rule member
  obtain ⟨a, declared, -⟩ := (Validator.mem_rules_iff h.validator).1 member
  exact name_ne_of_maintained h.columns mem declared rfl

end Schema

end EntityStore
