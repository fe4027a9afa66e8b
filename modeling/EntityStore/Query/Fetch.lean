import EntityStore.Instance.Write
import EntityStore.Query.Basic

/-!
# Fetching rows

Running a query for the instances of its rows, without the relations that it names.
-/

namespace EntityStore

namespace Query

/-- The instances of the rows of a query. -/
def fetch (q : Query) : Task (List Instance) := do
  return (← Task.select q.statement).map (Instance.ofRow q.model)

/-- The instance of the first row of a query. -/
def fetchFirst (q : Query) : Task (Option Instance) := do
  return (← { q with limit := some 1 }.fetch).head?

end Query

namespace Relation

/-- A query on the entity that the relation leads to. -/
def targetQuery (relation : Relation) : Task Query := do
  let db ← Work.database
  return (← Work.ofExcept (db.registry.get relation.targetEntity)).query

end Relation

end EntityStore
