import EntityStore.Schema.Basic

/-!
# Relations between entities

A resolved relation holds the tables and keys by which its rows are found. Which keys it has depends
on how the rows are linked:

* `belongsTo`: `localKey` of the owner holds `foreignKey`, the primary key of the target;
* `hasMany`, `hasOne`: `foreignKey` of the target holds `localKey`, the primary key of the owner;
* `belongsToMany`: rows of the pivot table hold the primary keys of both;
* `through`: an intermediate row holds the key of the owner, and the target holds its key.
-/

namespace EntityStore

/-- How the rows of a relation are linked. -/
inductive Mechanism where
  | belongsTo
  | hasMany
  | hasOne
  | belongsToMany
  | through
deriving DecidableEq, Repr

def Mechanism.text : Mechanism → String
  | .belongsTo => "belongsTo"
  | .hasMany => "hasMany"
  | .hasOne => "hasOne"
  | .belongsToMany => "belongsToMany"
  | .through => "throughMany"

inductive Cardinality where
  | one
  | many
deriving DecidableEq, Repr

def Cardinality.text : Cardinality → String
  | .one => "One"
  | .many => "Many"

/-- The pivot table of a many-to-many relation and its columns that hold the key of the owner and
the key of the related row. -/
structure Pivot where
  table : String
  ownerKey : String
  relatedKey : String
deriving DecidableEq, Repr

/-- The intermediate entity of a relation, its table and primary key, and its column that points at
the owner. -/
structure Intermediate where
  entity : String
  table : String
  primaryKey : String
  ownerKey : String
deriving DecidableEq, Repr

/-- A relation with everything that is needed to find its rows. -/
structure Relation where
  name : String
  targetEntity : String
  targetTable : String
  cardinality : Cardinality
  mechanism : Mechanism
  localKey : String
  foreignKey : String
  pivot : Option Pivot := none
  through : Option Intermediate := none
  pageSize : Option Nat := none
deriving DecidableEq, Repr

namespace Relation

def isCollection (r : Relation) : Bool :=
  r.cardinality = .many

/-- The name of the accessor method in a generated facade. -/
def accessorName (r : Relation) : String :=
  if r.mechanism = .belongsTo then r.name ++ "_belong" else r.name

def requirePivot (r : Relation) : Except Error Pivot :=
  match r.pivot with
  | some p => .ok p
  | none => .error (.noPivot r.name)

def requireThrough (r : Relation) : Except Error Intermediate :=
  match r.through with
  | some t => .ok t
  | none => .error (.noIntermediate r.name)

/-- What is known about a relation, as data. -/
def toValue (r : Relation) : Value :=
  .object [("accessor", .text r.accessorName), ("cardinality", .text r.cardinality.text),
    ("collection", .bool r.isCollection), ("foreign_key", .text r.foreignKey),
    ("local_key", .text r.localKey), ("mechanism", .text r.mechanism.text), ("name", .text r.name),
    ("page_size", .optionalNat r.pageSize),
    ("pivot_foreign_key", .optionalText (r.pivot.map (·.ownerKey))),
    ("pivot_related_key", .optionalText (r.pivot.map (·.relatedKey))),
    ("pivot_table", .optionalText (r.pivot.map (·.table))),
    ("target_entity", .text r.targetEntity), ("target_table", .text r.targetTable),
    ("through_entity", .optionalText (r.through.map (·.entity))),
    ("through_foreign_key", .optionalText (r.through.map (·.ownerKey))),
    ("through_primary_key", .optionalText (r.through.map (·.primaryKey))),
    ("through_table", .optionalText (r.through.map (·.table)))]

end Relation

/-- The schemas that relations are resolved against, and the number of rows that a `hasMany`
relation fetches unless it says otherwise. -/
structure RelationResolver where
  schemas : List Schema
  pageSize : Nat

namespace RelationResolver

/-- The schema of an entity that a relation names. -/
def schemaFor (resolver : RelationResolver) (relation entity : String) : Except Error Schema :=
  match resolver.schemas.find? (·.name == entity) with
  | some s => .ok s
  | none => .error (.unknownTarget relation entity)

/-- Resolves one declaration of an entity. -/
def resolveOne (resolver : RelationResolver) (owner : Schema) (options : RelationOptions)
    (mechanism : Mechanism) (cardinality : Cardinality) : Except Error Relation := do
  let derivedName :=
    match cardinality with
    | .one => Text.snakeCase options.entity
    | .many => Naming.tableName options.entity
  let name := options.name.getD derivedName
  let target ← resolver.schemaFor name options.entity
  let relation : Relation :=
    { name
      targetEntity := target.name
      targetTable := target.tableName
      cardinality
      mechanism
      localKey := owner.primaryKeyName
      foreignKey := Naming.foreignKey owner.name }
  match mechanism with
  | .belongsTo =>
    .ok { relation with
      localKey := options.belongsToKey
      foreignKey := target.primaryKeyName }
  | .hasMany =>
    .ok { relation with
      foreignKey := options.foreignKey.getD relation.foreignKey
      pageSize := some (options.pageSize.getD resolver.pageSize) }
  | .hasOne => .ok { relation with foreignKey := options.foreignKey.getD relation.foreignKey }
  | .belongsToMany =>
    .ok { relation with
      foreignKey := target.primaryKeyName
      pivot := some
        { table := options.pivotTable.getD (Naming.pivotTable owner.name target.name)
          ownerKey := options.pivotForeignKey.getD (Naming.foreignKey owner.name)
          relatedKey := options.pivotRelatedKey.getD (Naming.foreignKey options.entity) } }
  | .through =>
    match options.through with
    | none => .error (.missingThrough name owner.name)
    | some entity => do
      let through ← resolver.schemaFor name entity
      .ok { relation with
        foreignKey := options.foreignKey.getD (Naming.foreignKey through.name)
        through := some
          { entity := through.name
            table := through.tableName
            primaryKey := through.primaryKeyName
            ownerKey := options.throughForeignKey.getD (Naming.foreignKey owner.name) } }

/-- The declarations of an entity, in the order in which they are resolved. -/
def declarations (owner : Schema) : List (RelationOptions × Mechanism × Cardinality) :=
  let r := owner.relations
  r.belongsTo.map (·, .belongsTo, .one) ++ r.hasMany.map (·, .hasMany, .many) ++
    r.hasOne.map (·, .hasOne, .one) ++ r.belongsToMany.map (·, .belongsToMany, .many) ++
    r.hasOneThrough.map (·, .through, .one) ++ r.hasManyThrough.map (·, .through, .many)

/-- Resolves declarations after those of `done`; no two relations have one name. -/
def resolveAll (resolver : RelationResolver) (owner : Schema) (done : List Relation) :
    List (RelationOptions × Mechanism × Cardinality) → Except Error (List Relation)
  | [] => .ok done
  | (options, mechanism, cardinality) :: rest =>
    (resolver.resolveOne owner options mechanism cardinality).bind fun relation =>
      if done.any (·.name == relation.name) then
        .error (.duplicateRelation relation.name owner.name)
      else resolver.resolveAll owner (done ++ [relation]) rest

/-- The relations of an entity. -/
def resolve (resolver : RelationResolver) (owner : Schema) : Except Error (List Relation) :=
  resolver.resolveAll owner [] (declarations owner)

end RelationResolver

end EntityStore
