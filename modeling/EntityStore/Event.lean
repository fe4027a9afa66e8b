import EntityStore.Naming
import EntityStore.Document.Decode

/-!
# Lifecycle events

An entity announces that a row was created, updated or deleted. The name of the announcement joins
the name of the entity and the event: `giftCard:created`.
-/

namespace EntityStore

/-- What happened to a row. -/
inductive LifecycleEvent where
  | created
  | updated
  | deleted
deriving DecidableEq, Repr

namespace LifecycleEvent

/-- Every event, in the order in which they are listed. -/
def all : List LifecycleEvent := [.created, .updated, .deleted]

def text : LifecycleEvent → String
  | .created => "created"
  | .updated => "updated"
  | .deleted => "deleted"

/-- The name under which an entity announces the event. -/
def nameFor (event : LifecycleEvent) (entity : String) : String :=
  Text.lowerCamelCase entity ++ ":" ++ event.text

/-- The names that declarations use for the events; each has a short form. -/
def names : List (String × LifecycleEvent) :=
  [("create", .created), ("created", .created), ("update", .updated), ("updated", .updated),
    ("delete", .deleted), ("deleted", .deleted)]

def read : Reader LifecycleEvent := Reader.variant names

end LifecycleEvent

/-- An announcement with the row it is about. -/
structure Announcement where
  name : String
  payload : Value
deriving DecidableEq, Repr

/-- What becomes of announcements: they are kept, or every delivery fails. A failed delivery never
shows to the writer. -/
inductive EventBus where
  | recording
  | failing
deriving DecidableEq, Repr

/-- Why an announcement was not delivered. -/
inductive EventError where
  | dispatch (reason : String)
  | observer (reason : String)

def EventError.message : EventError → String
  | .dispatch reason => "Event dispatch failed: " ++ reason
  | .observer reason => "Observer error: " ++ reason

end EntityStore
