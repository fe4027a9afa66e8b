import EntityStore.Query.Condition

/-!
# Statements

What a storage is asked to do: select rows, or insert, update or delete them.
-/

namespace EntityStore

/-- What a selection answers for each row, or for all rows together. -/
inductive Projection where
  | all
  | columns (names : List String)
  | aggregate (function : Aggregate) (column : Option String)
deriving DecidableEq, Repr

/-- The column that holds the result of an aggregate. -/
def aggregateAlias : String := "aggregate"

/-- The column that holds the number of rows of a group. -/
def groupCountAlias : String := "count"

structure Select where
  table : String
  projection : Projection := .all
  distinct : Bool := false
  joins : List Join := []
  conditions : ConditionTree := []
  groupBy : List String := []
  having : ConditionTree := []
  orderBy : List Order := []
  limit : Option Nat := none
  offset : Option Nat := none
deriving Repr

/-- New rows; `returning` is the key column whose values the insertion answers. -/
structure Insert where
  table : String
  rows : List Row := []
  returning : String := "id"
deriving Repr

structure Update where
  table : String
  values : Row := .empty
  conditions : ConditionTree := []
deriving Repr

structure Delete where
  table : String
  conditions : ConditionTree := []
deriving Repr

/-- A statement that changes rows. -/
inductive Write where
  | insert (statement : Insert)
  | update (statement : Update)
  | delete (statement : Delete)
deriving Repr

inductive Statement where
  | select (statement : Select)
  | write (statement : Write)
deriving Repr

/-- The same selection, of one condition more. -/
def Select.filter (s : Select) (c : Condition) : Select :=
  { s with conditions := s.conditions.also c }

def Update.filter (s : Update) (c : Condition) : Update :=
  { s with conditions := s.conditions.also c }

def Delete.filter (s : Delete) (c : Condition) : Delete :=
  { s with conditions := s.conditions.also c }

end EntityStore
