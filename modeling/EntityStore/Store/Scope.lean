import EntityStore.Row

/-!
# Scopes

A scope is a row together with the columns that conditions on it can name: those of the row itself,
plain and as `table.column`, those of joined rows as `table.column`, and inside a subquery those of
the outer scope that no inner column hides.
-/

namespace EntityStore

/-- The table and the column of a qualified name. -/
def qualified (table column : String) : String :=
  table ++ "." ++ column

/-- A row and the columns in sight of it. -/
structure Scope where
  base : Row
  columns : Row
deriving Repr

namespace Scope

/-- The columns in sight once those of `row` are added under both their names. -/
def withRow (columns : Row) (table : String) (row : Row) : Row :=
  row.fields.foldl
    (fun sight (name, value) => (sight.insert (qualified table name) value).insert name value)
    columns

/-- The scope of a row of a table. -/
def ofRow (table : String) (row : Row) : Scope :=
  ⟨row, withRow .empty table row⟩

/-- The scope with the columns of a joined row under their qualified names. -/
def join (scope : Scope) (table : String) (row : Row) : Scope :=
  { scope with
    columns := row.fields.foldl
      (fun sight (name, value) => sight.insert (qualified table name) value) scope.columns }

/-- The scope of a row in a subquery; its columns hide those outside. -/
def nested (scope : Scope) (table : String) (row : Row) : Scope :=
  ⟨row, withRow scope.columns table row⟩

/-- The value of a column, null when it is not in sight. -/
def lookup (scope : Scope) (column : String) : Value :=
  (scope.columns.get? column).getD .null

end Scope

end EntityStore
