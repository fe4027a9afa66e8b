import EntityStore.Model.Registry
import EntityStore.Query.ColumnName

/-!
# Queries

A query selects rows of one entity. It is built up step by step and becomes a selection
(`Query.statement`) only when it is run; until then the conditions that the caller gave stand apart
from the condition that keeps rows in the trash out of sight.
-/

namespace EntityStore

/-- Which rows a query sees of an entity that has a trash. -/
inductive TrashScope where
  | untrashed
  | everything
  | trashed
deriving DecidableEq, Repr

/-- A query on one entity. `loads` names the relations to load with the rows. -/
structure Query where
  model : Model
  conditions : ConditionTree := []
  columns : Option (List String) := none
  distinct : Bool := false
  joins : List Join := []
  groupBy : List String := []
  having : ConditionTree := []
  orderBy : List Order := []
  limit : Option Nat := none
  offset : Option Nat := none
  loads : List String := []
  scope : TrashScope := .untrashed
deriving Repr

namespace Query

/-- The query with one more condition. -/
def filter (q : Query) (c : Condition) : Query :=
  { q with conditions := q.conditions.also c }

/-- Rows whose column has a value. -/
def whereEq (q : Query) (column : String) (value : Value) : Query :=
  q.filter (.compare column .eq value)

/-- The same for a column that the entity must have. -/
def whereAttribute (q : Query) (field : String) (value : Value) : Except Error Query :=
  if q.model.hasColumn field then .ok (q.whereEq field value)
  else .error (.unknownAttribute q.model.name field)

/-- Rows to which some row of a table that satisfies `tree` points by the key of the entity. -/
def whereExists (q : Query) (table : String) (tree : ConditionTree) : Query :=
  q.filter (.related false table ⟨q.model.foreignKeyName, q.model.table, q.model.primaryKey⟩ tree)

/-- The conditions of a caller on the rows that a relation leads to, with those in the trash left
out. -/
def targetConditions (target : Model) (table : String) (tree : ConditionTree) : ConditionTree :=
  if target.traits.softDeletes then tree.enclosed.also (.isNull (table ++ ".deleted_at")) else tree

/-- The condition that a relation leads to a row that satisfies `tree`, or to none. -/
def relatedCondition (registry : Registry) (owner : Model) (name : String) (negated : Bool)
    (tree : ConditionTree) : Except Error Condition := do
  let relation ← owner.relation name
  let target ← registry.get relation.targetEntity
  let inner := targetConditions target relation.targetTable tree
  match relation.mechanism with
  | .belongsTo | .hasMany | .hasOne =>
    .ok (.related negated relation.targetTable
      ⟨relation.foreignKey, owner.table, relation.localKey⟩ inner)
  | .belongsToMany => do
    let pivot ← relation.requirePivot
    .ok (.related negated pivot.table ⟨pivot.ownerKey, owner.table, relation.localKey⟩
      [(.and, .related false relation.targetTable
        ⟨relation.foreignKey, pivot.table, pivot.relatedKey⟩ inner)])
  | .through => do
    let through ← relation.requireThrough
    .ok (.related negated through.table ⟨through.ownerKey, owner.table, relation.localKey⟩
      [(.and, .related false relation.targetTable
        ⟨relation.foreignKey, through.table, through.primaryKey⟩ inner)])

/-- Rows that a relation leads from to a row that satisfies `tree`. -/
def whereHas (q : Query) (registry : Registry) (relation : String) (tree : ConditionTree) :
    Except Error Query :=
  (relatedCondition registry q.model relation false tree).map q.filter

/-- Rows that a relation leads from to no row that satisfies `tree`. -/
def whereDoesntHave (q : Query) (registry : Registry) (relation : String) (tree : ConditionTree) :
    Except Error Query :=
  (relatedCondition registry q.model relation true tree).map q.filter

/-- Joins a table where two columns are equal; no other operator joins. -/
def join (q : Query) (kind : JoinKind) (table first operator second : String) :
    Except Error Query := do
  if (← Operator.ofText operator) = .eq then
    .ok { q with joins := q.joins ++ [⟨kind, table, first, second⟩] }
  else .error (.unsupportedJoin operator)

/-- Orders by one more key. -/
def orderedBy (q : Query) (column : String) (direction : Direction) : Query :=
  { q with orderBy := q.orderBy ++ [.column column direction] }

/-- Keeps the groups that satisfy one more comparison. -/
def havingValue (q : Query) (column operator : String) (value : Value) : Except Error Query := do
  let operator ← Operator.ofText operator
  .ok { q with having := q.having.also (.compare column operator value) }

/-- Loads declared relations with the rows, each once. -/
def load (q : Query) (names : List String) : Except Error Query :=
  names.foldlM (fun q name => do
    let _ ← q.model.relation name
    .ok (if q.loads.contains name then q else { q with loads := q.loads ++ [name] })) q

/-- The conditions of the caller with the scope of the trash. -/
def scopedConditions (q : Query) : ConditionTree :=
  if !q.model.traits.softDeletes || q.scope = .everything then q.conditions
  else
    let column := q.model.table ++ ".deleted_at"
    q.conditions.enclosed.also (if q.scope = .trashed then .notNull column else .isNull column)

/-- The query as a selection. -/
def statement (q : Query) : Select :=
  { table := q.model.table
    projection := match q.columns with
      | some names => .columns names
      | none => .all
    distinct := q.distinct
    joins := q.joins
    conditions := q.scopedConditions
    groupBy := q.groupBy
    having := q.having
    orderBy := q.orderBy
    limit := q.limit
    offset := q.offset }

/-- The primary key with the table in front. -/
def qualifiedKey (q : Query) : String :=
  q.model.table ++ "." ++ q.model.primaryKey

/-- Only the row of a key. -/
def withKey (q : Query) (id : Int) : Query :=
  q.whereEq q.qualifiedKey (.int id)

/-- In ascending order of the primary key, whatever order was asked for. -/
def inKeyOrder (q : Query) : Query :=
  { q with orderBy := [.column q.qualifiedKey .asc] }

end Query

/-- A query on all rows of an entity that are not in the trash. -/
def Model.query (m : Model) : Query := { model := m }

end EntityStore
