import EntityStore.Pattern.Syntax
import EntityStore.Schema.Basic

/-!
# Validation

The rules of an entity's attributes, checked on every write that asks for it. All failures of a row
are collected, in the order of the attributes.
-/

namespace EntityStore

/-- A new row must give every required attribute; a change is checked for what it sets. -/
inductive WriteMode where
  | create
  | update
deriving DecidableEq, Repr

/-- What one attribute accepts. -/
structure AttributeRule where
  type : FieldType
  nullable : Bool
  required : Bool
  min : Option Binary64
  max : Option Binary64
  pattern : Option (String × Pattern)
  values : List String
deriving DecidableEq, Repr

/-- The rules of the attributes in declaration order. -/
structure Validator where
  rules : List (String × AttributeRule) := []
deriving DecidableEq, Repr

namespace FieldType

/-- A value has the form that columns of a type hold. Integers pass for booleans. -/
def accepts (type : FieldType) (v : Value) : Bool :=
  match type, v with
  | .json, _ => true
  | .integer, .number (.int _) => true
  | .float, .number _ | .decimal, .number _ => true
  | .boolean, .bool _ => true
  | .boolean, v => v.isInt64
  | .integer, _ | .float, _ | .decimal, _ => false
  | _, .text _ => true
  | _, _ => false

end FieldType

namespace AttributeRule

/-- The rule of a declared attribute, unless its pattern is malformed. -/
def ofAttribute (entity name : String) (a : Attribute) : Except Error AttributeRule :=
  let rule := a.validation.getD {}
  let compiled (pattern : Option (String × Pattern)) : AttributeRule :=
    ⟨a.type, a.nullable, rule.required, rule.min, rule.max, pattern, a.values⟩
  match rule.pattern with
  | none => .ok (compiled none)
  | some source =>
    match Pattern.ofSource? source with
    | some p => .ok (compiled (some (source, p)))
    | none => .error (.invalidPattern entity name)

/-- What the bounds apply to: the value of a number, the length of a text. -/
def measure? : Value → Option Binary64
  | .number n => some n.toFloat
  | .text s => some (.ofInt s.length)
  | _ => none

/-- The value is not among the allowed texts of an enumeration. -/
def outsideValues (rule : AttributeRule) (v : Value) : Bool :=
  rule.type = .enum && !rule.values.isEmpty &&
    !((v.asText?.map rule.values.contains).getD false)

/-- The bounds that the value violates. -/
def boundFailures (rule : AttributeRule) (name : String) (v : Value) : List ValidationFailure :=
  match measure? v with
  | none => []
  | some x =>
    (match rule.min with
      | some low => if x.lt low then [.tooSmall name low] else []
      | none => []) ++
    (match rule.max with
      | some high => if high.lt x then [.tooLarge name high] else []
      | none => [])

/-- The pattern that the text does not match. -/
def patternFailures (rule : AttributeRule) (name : String) (v : Value) : List ValidationFailure :=
  match rule.pattern, v with
  | some (source, p), .text s => if p.occursIn s then [] else [.noMatch name source]
  | _, _ => []

/-- What is wrong with a value. -/
def failures (rule : AttributeRule) (name : String) (v : Value) : List ValidationFailure :=
  if v.isNull then (if rule.required || !rule.nullable then [.isNull name] else [])
  else if !rule.type.accepts v then [.wrongType name rule.type]
  else
    (if rule.outsideValues v then [.notAllowed name rule.values] else []) ++
      rule.boundFailures name v ++ rule.patternFailures name v

end AttributeRule

namespace Validator

/-- The rules of declared attributes. -/
def ofAttributes (entity : String) (attributes : List (String × Attribute)) :
    Except Error Validator := do
  let rules ← attributes.mapM fun (name, a) => do
    let rule ← AttributeRule.ofAttribute entity name a
    pure (name, rule)
  pure ⟨rules⟩

/-- What is wrong with a row. -/
def failures (validator : Validator) (row : Row) (mode : WriteMode) : List ValidationFailure :=
  validator.rules.flatMap fun (name, rule) =>
    match row.get? name with
    | some v => rule.failures name v
    | none => if mode = .create && rule.required then [.missing name] else []

/-- Refuses a row with failures. -/
def validate (validator : Validator) (row : Row) (mode : WriteMode) : Except Error Unit :=
  let failures := validator.failures row mode
  if failures.isEmpty then .ok () else .error (.invalidAttributes failures)

end Validator

end EntityStore
