import EntityStore.Association.Tags

/-!
# Categories

Categories are shared: one name is one category for all owners. An owner is linked to a category by
a row of its own.
-/

namespace EntityStore

structure Category where
  id : Int := 0
  name : String := ""
  slug : String := ""
  description : Option String := none
  isActive : Bool := true
  createdAt : Option String := none
  updatedAt : Option String := none
deriving DecidableEq, Repr

/-- The link of an owner to a category. -/
structure CategoryLink where
  id : Int := 0
  category : Int := 0
deriving DecidableEq, Repr

namespace Category

/-- The table of all categories. -/
def table : String := "categorizables"

def read : Reader Category :=
  Reader.readRecord "Category"
    [.required "id" Reader.int64 fun c n => { c with id := n },
      .required "name" Reader.text fun c s => { c with name := s },
      .required "slug" Reader.text fun c s => { c with slug := s },
      .optional "description" Reader.text fun c s => { c with description := s },
      .defaulted "is_active" Reader.boolean fun c b => { c with isActive := b },
      .optional "created_at" Reader.text fun c s => { c with createdAt := s },
      .optional "updated_at" Reader.text fun c s => { c with updatedAt := s }] {}

def toValue (c : Category) : Value :=
  .object [("created_at", .optionalText c.createdAt), ("description", .optionalText c.description),
    ("id", .int c.id), ("is_active", .bool c.isActive), ("name", .text c.name),
    ("slug", .text c.slug), ("updated_at", .optionalText c.updatedAt)]

end Category

def CategoryLink.read : Reader CategoryLink :=
  Reader.readRecord "CategoryLink"
    [.required "id" Reader.int64 fun l n => { l with id := n },
      .required "category_id" Reader.int64 fun l n => { l with category := n }] {}

/-- The categories of one owner. -/
structure Categories where
  rows : OwnedRows

namespace Categories

/-- The categories of an instance of a categorizable entity. -/
def ofInstance (owner : Instance) : Except Error Categories := do
  owner.model.requireTrait owner.model.traits.categorizable "categorizable"
  return ⟨← OwnedRows.ofInstance owner "categorizable_models" "categorizable_id"
    "categorizable_type"⟩

/-- The links of the owner. -/
def links (categories : Categories) : Task (List CategoryLink) :=
  OwnedRows.fetch categories.rows.selection CategoryLink.read

/-- The keys of the categories of the owner, each once. -/
def keys (categories : Categories) : Task (List Int) := do
  return (← categories.links).foldl (fun done link =>
    if done.contains link.category then done else done ++ [link.category]) []

/-- The categories of the owner that satisfy further conditions; nothing more runs without links. -/
def fetch (categories : Categories) (further : ConditionTree) : Task (List Category) := do
  let keys ← categories.keys
  if keys.isEmpty then return []
  OwnedRows.fetch
    { table := Category.table
      conditions := (.and, .isIn "id" (keys.map Value.int)) :: further } Category.read

def all (categories : Categories) : Task (List Category) :=
  categories.fetch []

/-- The categories that are active, or those that are not. -/
def whereActive (categories : Categories) (active : Bool) : Task (List Category) :=
  categories.fetch [(.and, .compare "is_active" .eq (.bool active))]

def count (categories : Categories) : Task Int := do
  return (← categories.keys).length

/-- The category of a name, which is made when there is none. -/
def findOrMake (label : Label) : Task Category := do
  let found ← Task.selectFirst
    { table := Category.table, conditions := [(.and, .compare "name" .eq (.text label.name))] }
  let row ← match found with
    | some row => Pure.pure row
    | none => Task.insertStamped Category.table label.toRow
  Work.ofExcept (row.decode Category.read)

/-- Links the owner to the category of a name, unless it is linked already. -/
def add (categories : Categories) (label : Label) : Task Category := do
  let category ← findOrMake label
  if !(← categories.keys).contains category.id then
    let _ ← categories.rows.insert (Row.empty.insert "category_id" (.int category.id))
  return category

/-- Removes the links of the owner to a category; false when there was none. The category stays. -/
def remove (categories : Categories) (id : Int) : Task Bool := do
  let links := (← categories.links).filter (·.category == id)
  let removed ← links.mapM fun link => categories.rows.delete link.id
  return removed.any (0 < ·)

end Categories

end EntityStore
