import EntityStore.Association.Basic

/-!
# Likes

Users like instances. The likes of an entity stand in a table of its own, one row for an owner and a
user.
-/

namespace EntityStore

structure Like where
  id : Int := 0
  user : Int := 0
  createdAt : Option String := none
deriving DecidableEq, Repr

namespace Like

def read : Reader Like :=
  Reader.readRecord "Like"
    [.required "id" Reader.int64 fun l n => { l with id := n },
      .required "user_id" Reader.int64 fun l n => { l with user := n },
      .optional "created_at" Reader.text fun l s => { l with createdAt := s }] {}

def toValue (l : Like) : Value :=
  .object [("created_at", .optionalText l.createdAt), ("id", .int l.id), ("user_id", .int l.user)]

end Like

/-- The likes of one owner: their table, its column that points at the owner, and the owner. -/
structure Likes where
  table : String
  ownerKey : String
  ownerId : Int
deriving DecidableEq, Repr

namespace Likes

/-- The likes of an instance of a likeable entity. -/
def ofInstance (owner : Instance) : Except Error Likes := do
  let m := owner.model
  m.requireTrait m.traits.likeable.isEnabled "likeable"
  let options := m.traits.likeable.options {}
  return {
    table := options.table.getD (m.table ++ "_likes")
    ownerKey := options.foreignKey.getD (Naming.foreignKeyForTable m.table)
    ownerId := ← owner.requireId }

/-- The selection of the likes of the owner. -/
def selection (likes : Likes) : Select :=
  { table := likes.table
    conditions := [(.and, .compare likes.ownerKey .eq (.int likes.ownerId))] }

/-- The condition on the user. -/
def userIs (user : Int) : Condition :=
  .compare "user_id" .eq (.int user)

def all (likes : Likes) : Task (List Like) :=
  OwnedRows.fetch likes.selection Like.read

def count (likes : Likes) : Task Int :=
  OwnedRows.countOf likes.selection

/-- The user likes the owner. -/
def contains (likes : Likes) (user : Int) : Task Bool := do
  return (← Task.selectFirst (likes.selection.filter (userIs user))).isSome

/-- Adds the like of a user, unless there is one. -/
def add (likes : Likes) (user : Int) : Task Unit := do
  if !(← likes.contains user) then
    let _ ← Task.insertStamped likes.table
      (Row.ofFields [(likes.ownerKey, .int likes.ownerId), ("user_id", .int user)])

/-- Removes the like of a user; false when there was none. -/
def remove (likes : Likes) (user : Int) : Task Bool := do
  return 0 < (← Task.delete
    { table := likes.table, conditions := likes.selection.conditions.also (userIs user) })

end Likes

end EntityStore
