import EntityStore.Query.Fetch

/-!
# Loading relations with their owners

A relation of many owners is loaded by one query (two where a pivot or an intermediate entity lies
between), whose rows are then handed to the owners by the text of their keys.
-/

namespace EntityStore

/-- The text by which keys are matched; null matches nothing. -/
def Value.keyText? : Value → Option String
  | .null => none
  | .text s => some s
  | v => some v.render

namespace Instance

/-- The text of a key column. -/
def keyText? (i : Instance) (column : String) : Option String :=
  (i.get? column).bind Value.keyText?

end Instance

namespace Relation

/-- The distinct keys in a column of the owners, in the order of their first appearance. -/
def distinctKeys (owners : List Instance) (column : String) : List Value :=
  (owners.foldl (fun (done : List (String × Value)) owner =>
    match owner.get? column with
    | none => done
    | some value =>
      match value.keyText? with
      | none => done
      | some key => if done.any (·.1 == key) then done else done ++ [(key, value)]) []).map (·.2)

/-- The rows that carry a key in a column. -/
def rowsOfKey (rows : List Instance) (column key : String) : List Instance :=
  rows.filter fun row => row.keyText? column = some key

/-- The rows that carry the key of an owner. -/
def rowsOfOwner (relation : Relation) (rows : List Instance) (owner : Instance) : List Instance :=
  match owner.keyText? relation.localKey with
  | some key => rowsOfKey rows relation.foreignKey key
  | none => []

/-- The owner with the first of some rows, if there is one. -/
def attachOne (relation : Relation) (rows : List Instance) (owner : Instance) : Instance :=
  match rows.head? with
  | some row => owner.setRelation relation.name (.one row)
  | none => owner

/-- The owner with a list of rows. -/
def attachMany (relation : Relation) (rows : List Instance) (owner : Instance) : Instance :=
  owner.setRelation relation.name (.many rows)

/-- The first rows, as many as the relation fetches. -/
def firstPage (relation : Relation) (rows : List Instance) : List Instance :=
  match relation.pageSize with
  | some n => rows.take n
  | none => rows

/-- Loads the rows that the owners belong to. -/
def loadParents (relation : Relation) (owners : List Instance) : Task (List Instance) := do
  let keys := distinctKeys owners relation.localKey
  if keys.isEmpty then return owners
  let query ← relation.targetQuery
  let parents ← (query.filter (.isIn relation.foreignKey keys)).fetch
  return owners.map fun owner => relation.attachOne (relation.rowsOfOwner parents owner) owner

/-- The rows of the target that carry one of the keys, in the order of their primary keys; no query
runs without keys. -/
def fetchOrdered (relation : Relation) (keys : List Value) : Task (List Instance) := do
  if keys.isEmpty then return []
  let query ← relation.targetQuery
  ((query.filter (.isIn relation.foreignKey keys)).orderedBy query.qualifiedKey .asc).fetch

/-- Loads the rows that point at the owners. -/
def loadDependents (relation : Relation) (owners : List Instance) : Task (List Instance) := do
  let rows ← relation.fetchOrdered (distinctKeys owners relation.localKey)
  return owners.map fun owner =>
    let related := relation.rowsOfOwner rows owner
    if relation.mechanism = .hasOne then relation.attachOne related owner
    else relation.attachMany (relation.firstPage related) owner

/-- A pivot row as the text of the key of the owner and the key of the related row. -/
def linkOf? (pivot : Pivot) (row : Row) : Option (String × Value) :=
  match (row.get? pivot.ownerKey).bind Value.keyText?, row.get? pivot.relatedKey with
  | some owner, some related => if related.isNull then none else some (owner, related)
  | _, _ => none

/-- The links of the owners with the given keys, in the order of the pivot table. -/
def links (pivot : Pivot) (keys : List Value) : Task (List (String × Value)) := do
  if keys.isEmpty then return []
  let rows ← Task.select
    { table := pivot.table, conditions := [(.and, .isIn pivot.ownerKey keys)] }
  return rows.filterMap (linkOf? pivot)

/-- The related rows of an owner, in the order of its links. -/
def linkedRows (relation : Relation) (links : List (String × Value)) (rows : List Instance)
    (owner : Instance) : List Instance :=
  match owner.keyText? relation.localKey with
  | none => []
  | some key =>
    (links.filter (·.1 == key)).filterMap fun link =>
      link.2.keyText?.bind fun related => (rowsOfKey rows relation.foreignKey related).head?

/-- Loads the rows that the pivot table links to the owners. -/
def loadLinked (relation : Relation) (owners : List Instance) : Task (List Instance) := do
  let pivot ← Work.ofExcept relation.requirePivot
  let links ← links pivot (distinctKeys owners relation.localKey)
  let rows ← if links.isEmpty then Pure.pure [] else do
    let query ← relation.targetQuery
    (query.filter (.isIn relation.foreignKey (links.map (·.2)))).fetch
  return owners.map fun owner =>
    relation.attachMany (relation.linkedRows links rows owner) owner

/-- The first intermediate row of every owner, as the text of the key of the owner and the key of
the intermediate row. -/
def firstSteps (through : Intermediate) (rows : List Instance) : List (String × Value) :=
  rows.foldl (fun done row =>
    match row.keyText? through.ownerKey, row.get? through.primaryKey with
    | some owner, some key =>
      if done.any (·.1 == owner) || key.isNull then done else done ++ [(owner, key)]
    | _, _ => done) []

/-- The intermediate rows that point at the owners with the given keys. -/
def steps (through : Intermediate) (keys : List Value) : Task (List (String × Value)) := do
  if keys.isEmpty then return []
  let db ← Work.database
  let query := (← Work.ofExcept (db.registry.get through.entity)).query
  let rows ←
    ((query.filter (.isIn through.ownerKey keys)).orderedBy query.qualifiedKey .asc).fetch
  return firstSteps through rows

/-- The rows behind the intermediate row of an owner. -/
def rowsBehind (relation : Relation) (steps : List (String × Value)) (rows : List Instance)
    (owner : Instance) : List Instance :=
  let key? := (owner.keyText? relation.localKey).bind fun key =>
    (steps.lookup key).bind Value.keyText?
  match key? with
  | some key => rowsOfKey rows relation.foreignKey key
  | none => []

/-- Loads the rows behind the intermediate rows of the owners. -/
def loadThrough (relation : Relation) (owners : List Instance) : Task (List Instance) := do
  let through ← Work.ofExcept relation.requireThrough
  let steps ← steps through (distinctKeys owners relation.localKey)
  let rows ← relation.fetchOrdered (steps.map (·.2))
  return owners.map fun owner =>
    let related := relation.rowsBehind steps rows owner
    match relation.cardinality with
    | .many => relation.attachMany related owner
    | .one => relation.attachOne related owner

/-- Loads one relation onto its owners. -/
def loadOnto (relation : Relation) (owners : List Instance) : Task (List Instance) :=
  match relation.mechanism with
  | .belongsTo => relation.loadParents owners
  | .hasMany | .hasOne => relation.loadDependents owners
  | .belongsToMany => relation.loadLinked owners
  | .through => relation.loadThrough owners

end Relation

namespace Model

/-- Loads relations by name onto instances of the entity, one after the other. -/
def loadRelations (m : Model) (names : List String) (owners : List Instance) :
    Task (List Instance) :=
  names.foldlM (fun owners name => do
    let relation ← Work.ofExcept (m.relation name)
    relation.loadOnto owners) owners

end Model

end EntityStore
