import EntityStore.Association.Basic

/-!
# Tags

Free-form tags of instances. A tag has a slug made of its name, and belongs to one owner.
-/

namespace EntityStore

structure Tag where
  id : Int := 0
  ownerId : Int := 0
  ownerType : String := ""
  name : String := ""
  slug : String := ""
  description : Option String := none
  order : Int := 0
  isActive : Bool := true
  createdAt : Option String := none
  updatedAt : Option String := none
deriving DecidableEq, Repr

/-- What is given for a new tag or a new category. -/
structure Label where
  name : String
  description : Option String := none
deriving DecidableEq, Repr

namespace Label

def read : Reader Label :=
  Reader.readRecord "NewTag"
    [.required "name" Reader.text fun l s => { l with name := s },
      .optional "description" Reader.text fun l s => { l with description := s }] { name := "" }

/-- The columns that a new tag and a new category share. -/
def toRow (l : Label) : Row :=
  Row.ofFields [("slug", .text (Naming.slugify l.name)), ("name", .text l.name),
    ("description", .optionalText l.description), ("is_active", .bool true)]

end Label

namespace Tag

def read : Reader Tag :=
  Reader.readRecord "Tag"
    [.required "id" Reader.int64 fun t n => { t with id := n },
      .required "taggable_id" Reader.int64 fun t n => { t with ownerId := n },
      .required "taggable_type" Reader.text fun t s => { t with ownerType := s },
      .required "name" Reader.text fun t s => { t with name := s },
      .required "slug" Reader.text fun t s => { t with slug := s },
      .optional "description" Reader.text fun t s => { t with description := s },
      .defaulted "order" Reader.int64 fun t n => { t with order := n },
      .defaulted "is_active" Reader.boolean fun t b => { t with isActive := b },
      .optional "created_at" Reader.text fun t s => { t with createdAt := s },
      .optional "updated_at" Reader.text fun t s => { t with updatedAt := s }] {}

def toValue (t : Tag) : Value :=
  .object [("created_at", .optionalText t.createdAt), ("description", .optionalText t.description),
    ("id", .int t.id), ("is_active", .bool t.isActive), ("name", .text t.name),
    ("order", .int t.order), ("slug", .text t.slug), ("taggable_id", .int t.ownerId),
    ("taggable_type", .text t.ownerType), ("updated_at", .optionalText t.updatedAt)]

end Tag

/-- The tags of one owner. -/
structure Tags where
  rows : OwnedRows

namespace Tags

/-- The tags of an instance of a taggable entity. -/
def ofInstance (owner : Instance) : Except Error Tags := do
  owner.model.requireTrait owner.model.traits.taggable "taggable"
  return ⟨← OwnedRows.ofInstance owner "taggables" "taggable_id" "taggable_type"⟩

def all (tags : Tags) : Task (List Tag) :=
  OwnedRows.fetch tags.rows.selection Tag.read

def count (tags : Tags) : Task Int :=
  OwnedRows.countOf tags.rows.selection

/-- Adds an active tag of order 0. -/
def add (tags : Tags) (label : Label) : Task Tag := do
  let row ← tags.rows.insert (label.toRow.insert "order" (.int 0))
  Work.ofExcept (row.decode Tag.read)

/-- The tags that are active, or those that are not. -/
def whereActive (tags : Tags) (active : Bool) : Task (List Tag) :=
  OwnedRows.fetch (tags.rows.selection.filter (.compare "is_active" .eq (.bool active))) Tag.read

/-- Removes a tag of the owner; false when the owner has no such tag. -/
def remove (tags : Tags) (id : Int) : Task Bool := do
  return 0 < (← tags.rows.delete id)

end Tags

end EntityStore
