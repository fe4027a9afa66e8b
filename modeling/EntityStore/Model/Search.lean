import EntityStore.Schema.Traits

/-!
# Search documents

Which columns of an entity a search index sees, sorts by, filters by and displays.
-/

namespace EntityStore

structure SearchProjection where
  enabled : Bool
  searchable : List String
  sortable : List String
  filterable : List String
  displayable : List String
deriving DecidableEq, Repr

namespace SearchProjection

/-- Displays the declared columns, else the searchable ones, else every visible column. -/
def ofOptions (enabled : Bool) (options : SearchOptions) (visible : List String) :
    SearchProjection :=
  let displayable :=
    if !options.displayable.isEmpty then options.displayable
    else if !options.searchable.isEmpty then options.searchable
    else visible
  ⟨enabled, options.searchable, options.sortable, options.filterable, displayable⟩

def toValue (p : SearchProjection) : Value :=
  .object [("displayable", textList p.displayable), ("enabled", .bool p.enabled),
    ("filterable", textList p.filterable), ("searchable", textList p.searchable),
    ("sortable", textList p.sortable)]

/-- Every column that the projection names. -/
def columns (p : SearchProjection) : List String :=
  p.searchable ++ p.sortable ++ p.filterable ++ p.displayable

/-- The displayed part of a row. -/
def project (p : SearchProjection) (row : Row) : Row :=
  p.displayable.foldl (fun (done : Row) name =>
    match row.get? name with
    | some v => done.insert name v
    | none => done) Row.empty

end SearchProjection

end EntityStore
