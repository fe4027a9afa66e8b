import EntityStore.Model.Basic

/-!
# Instances

An instance is one row of an entity, stored or not yet stored, with the related instances that were
loaded for it. It remembers the row as it was last read, so that it knows what has been set since.
-/

namespace EntityStore

/-- What a relation leads to: one thing or a list of things. -/
inductive Related (α : Type) where
  | one (a : α)
  | many (items : List α)
deriving Repr

/-- A row of an entity. `loaded` is the row as it was last read, `changes` is what the last write
set, and `stored` says whether the row is in the table. -/
structure Instance where
  model : Model
  attributes : Row := .empty
  loaded : Row := .empty
  changes : Row := .empty
  relations : List (String × Related Instance) := []
  stored : Bool := false

namespace Related

variable {α : Type}

/-- The single thing, if it is one. -/
def one? : Related α → Option α
  | .one a => some a
  | .many _ => none

/-- All things as a list. -/
def toList : Related α → List α
  | .one a => [a]
  | .many items => items

end Related

namespace Instance

/-- The instance of a row that was read. -/
def ofRow (m : Model) (row : Row) : Instance :=
  { model := m, attributes := row, loaded := row, stored := true }

def get? (i : Instance) (name : String) : Option Value :=
  i.attributes.get? name

/-- The primary key, if it is an integer. -/
def id? (i : Instance) : Option Int :=
  (i.get? i.model.primaryKey).bind Value.asInt64?

def requireId (i : Instance) : Except Error Int :=
  match i.id? with
  | some id => .ok id
  | none => .error .missingPrimaryKey

def set (i : Instance) (name : String) (value : Value) : Instance :=
  { i with attributes := i.attributes.insert name value }

/-- Sets the fields that may be assigned in bulk, and drops the others. -/
def fill (i : Instance) (values : Row) : Instance :=
  { i with attributes := i.attributes.merge (i.model.filterFillable values) }

/-- Sets the fields that are columns, and drops the others. -/
def forceFill (i : Instance) (values : Row) : Instance :=
  { i with attributes := i.attributes.merge (i.model.filterColumns values) }

/-- The fields of a row that differ from another row, or that it lacks. -/
def difference (row other : Row) : Row :=
  row.filter fun name value =>
    match other.get? name with
    | some old => !old.same value
    | none => true

/-- What has been set since the row was read. -/
def dirty (i : Instance) : Row :=
  difference i.attributes i.loaded

def isDirty (i : Instance) : Bool :=
  !i.dirty.isEmpty

/-- The instance after its row was written and read again. -/
def synchronised (i : Instance) (row changes : Row) : Instance :=
  { i with attributes := row, loaded := row, changes, stored := true }

/-- The loaded value of a relation. -/
def relation? (i : Instance) (name : String) : Option (Related Instance) :=
  i.relations.lookup name

/-- Sets the loaded value of a relation; a relation keeps its place when it is loaded again. -/
def setRelation (i : Instance) (name : String) (value : Related Instance) : Instance :=
  { i with relations := Reader.putEntry name value i.relations }

mutual

/-- The instance as data: the attributes that are not hidden, and the loaded relations. -/
def toValue : Instance → Value
  | ⟨model, attributes, _, _, relations, _⟩ =>
    .object (withRelations
      (attributes.filter fun name _ => !model.isHidden name).fields relations)

/-- Fields with the loaded relations set among them. -/
def withRelations (done : List (String × Value)) :
    List (String × Related Instance) → List (String × Value)
  | [] => done
  | (name, related) :: rest => withRelations (setField name (relatedValue related) done) rest

/-- A loaded relation as data. -/
def relatedValue : Related Instance → Value
  | .one i => toValue i
  | .many items => .list (itemValues items)

/-- A list of instances as data. -/
def itemValues : List Instance → List Value
  | [] => []
  | i :: rest => toValue i :: itemValues rest

end

mutual

/-- Equality of instances: the same entity, the same attributes, the same loaded relations. -/
def same : Instance → Instance → Bool
  | ⟨model, attributes, _, _, relations, _⟩, ⟨model', attributes', _, _, relations', _⟩ =>
    model.name == model'.name && attributes.same attributes' &&
      relations.length == relations'.length && sameRelations relations relations'

/-- Every relation of the first list is loaded in the second, with an equal value. -/
def sameRelations : List (String × Related Instance) → List (String × Related Instance) → Bool
  | [], _ => true
  | (name, related) :: rest, others =>
    (match others.lookup name with
      | some other => sameRelated related other
      | none => false) && sameRelations rest others

/-- Equality of loaded relations. -/
def sameRelated : Related Instance → Related Instance → Bool
  | .one i, .one j => same i j
  | .many is, .many js => sameItems is js
  | _, _ => false

/-- Equality of lists of instances. -/
def sameItems : List Instance → List Instance → Bool
  | [], [] => true
  | i :: is, j :: js => same i j && sameItems is js
  | _, _ => false

end

/-- The value of an attribute read in a given form; nothing when it is missing or null. -/
def getAs {α : Type} (i : Instance) (name : String) (read : Reader α) :
    Except Error (Option α) :=
  match i.get? name with
  | none | some .null => .ok none
  | some v => ((read (.ofValue v)).map some).mapError .decode

/-- All attributes read as one structure. -/
def decode {α : Type} (i : Instance) (read : Reader α) : Except Error α :=
  (read (.ofValue i.attributes.toValue)).mapError .decode

/-- The document that a search index gets. -/
def searchDocument (i : Instance) : Except Error Value :=
  if i.model.search.enabled then .ok (i.model.search.project i.attributes).toValue
  else .error (.missingCapability i.model.name "searchable")

end Instance

/-- The row of attribute values that a caller gives; null gives none. -/
def Row.ofValue : Value → Except Error Row
  | .object fields => .ok (.ofFields fields)
  | .null => .ok .empty
  | v => .error (.notARow v)

end EntityStore
