import EntityStore.Query.Fetch

/-!
# Following a relation from one instance

`Instance.related` finds what a declared relation of an instance leads to. A relation to one row
that leads nowhere is an error, a relation to many rows leads to an empty list then.
-/

namespace EntityStore

namespace Instance

/-- The key of the owner that a relation starts from. -/
def ownerKey (i : Instance) (relation : Relation) : Except Error Value :=
  match i.get? relation.localKey with
  | none | some .null => .error .missingPrimaryKey
  | some key => .ok key

/-- The error that a relation of the instance leads nowhere. -/
def leadsNowhere (i : Instance) (relation : Relation) (cause : MissingTarget) : Error :=
  .missingTarget i.model.name relation.name cause

/-- The instance that was found, or the error that the relation leads nowhere. -/
def found (i : Instance) (relation : Relation) (cause : MissingTarget) (row : Option Instance) :
    Task (Related Instance) :=
  match row with
  | some row => return .one row
  | none => throw (i.leadsNowhere relation cause)

/-- The error that no row of the target carries a key. -/
def noTarget (relation : Relation) (key : Value) : MissingTarget :=
  .noRow relation.targetTable relation.foreignKey key

/-- The row that the instance belongs to. -/
def parent (i : Instance) (relation : Relation) : Task (Related Instance) :=
  match i.ownerKey relation with
  | .error _ => throw (i.leadsNowhere relation (.nullKey relation.localKey))
  | .ok key => do
    let query ← relation.targetQuery
    i.found relation (noTarget relation key) (← (query.whereEq relation.foreignKey key).fetchFirst)

/-- The rows that point at the instance, as many as the relation fetches. -/
def dependents (i : Instance) (relation : Relation) : Task (Related Instance) := do
  let key ← Work.ofExcept (i.ownerKey relation)
  let query ← relation.targetQuery
  let query := (query.whereEq relation.foreignKey key).orderedBy query.qualifiedKey .asc
  return .many (← { query with limit := relation.pageSize }.fetch)

/-- The first row that points at the instance. -/
def dependent (i : Instance) (relation : Relation) : Task (Related Instance) := do
  let key ← Work.ofExcept (i.ownerKey relation)
  let query ← relation.targetQuery
  let query := (query.whereEq relation.foreignKey key).orderedBy query.qualifiedKey .asc
  i.found relation (noTarget relation key) (← query.fetchFirst)

/-- The rows that the pivot table links to the instance. -/
def linked (i : Instance) (relation : Relation) : Task (Related Instance) := do
  let pivot ← Work.ofExcept relation.requirePivot
  let key ← Work.ofExcept (i.ownerKey relation)
  let rows ← Task.select
    { table := pivot.table, conditions := [(.and, .compare pivot.ownerKey .eq key)] }
  let keys := (rows.filterMap fun row => row.get? pivot.relatedKey).filter fun key => !key.isNull
  if keys.isEmpty then return .many []
  let query ← relation.targetQuery
  return .many (← (query.filter (.isIn relation.foreignKey keys)).fetch)

/-- What lies behind the first intermediate row that points at the instance. -/
def through (i : Instance) (relation : Relation) : Task (Related Instance) := do
  let through ← Work.ofExcept relation.requireThrough
  let key ← Work.ofExcept (i.ownerKey relation)
  let db ← Work.database
  let steps := (← Work.ofExcept (db.registry.get through.entity)).query
  let step? ←
    ((steps.whereEq through.ownerKey key).orderedBy steps.qualifiedKey .asc).fetchFirst
  match step? with
  | none => throw (i.leadsNowhere relation (.noIntermediate through.entity through.ownerKey key))
  | some step => do
    let behind := (step.get? through.primaryKey).getD .null
    let query ← relation.targetQuery
    let rows := query.whereEq relation.foreignKey behind
    match relation.cardinality with
    | .many => return .many (← rows.fetch)
    | .one =>
      i.found relation (noTarget relation behind)
        (← (rows.orderedBy rows.qualifiedKey .asc).fetchFirst)

/-- What a declared relation of the instance leads to. -/
def related (i : Instance) (name : String) : Task (Related Instance) := do
  let relation ← Work.ofExcept (i.model.relation name)
  match relation.mechanism with
  | .belongsTo => i.parent relation
  | .hasMany => i.dependents relation
  | .hasOne => i.dependent relation
  | .belongsToMany => i.linked relation
  | .through => i.through relation

/-- The single instance that a relation leads to. -/
def relatedOne (i : Instance) (name : String) : Task Instance := do
  match ← i.related name with
  | .one row => return row
  | .many _ => throw (.manyRelated name i.model.name)

/-- All instances that a relation leads to. -/
def relatedMany (i : Instance) (name : String) : Task (List Instance) := do
  return (← i.related name).toList

end Instance

end EntityStore
