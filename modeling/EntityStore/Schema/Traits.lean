import EntityStore.Event

/-!
# Traits of an entity

The abilities that a schema switches on for its entity. Most are plain switches. Observation,
likes, authentication and search can also be given in detail; their declared form is kept, since
the two forms behave differently.
-/

namespace EntityStore

/-- Which events an entity announces: all or none, or those of a list. -/
inductive Observe where
  | all (enabled : Bool)
  | events (list : List LifecycleEvent)
deriving DecidableEq, Repr

/-- A switch, or the details that go with being switched on. -/
inductive Switch (α : Type) where
  | enabled (on : Bool)
  | custom (options : α)
deriving DecidableEq, Repr

/-- The table that keeps the likes of an entity, and its column that points at the entity. -/
structure LikeOptions where
  table : Option String := none
  foreignKey : Option String := none
deriving DecidableEq, Repr

structure AuthOptions where
  twoFactor : Bool := false
  passkey : Bool := false
deriving DecidableEq, Repr

/-- The columns that a search index sees, sorts by, filters by and displays. -/
structure SearchOptions where
  searchable : List String := []
  sortable : List String := []
  filterable : List String := []
  displayable : List String := []
deriving DecidableEq, Repr

structure Traits where
  timestamps : Bool := true
  softDeletes : Bool := false
  uuid : Bool := false
  observe : Observe := .all false
  billable : Bool := false
  taggable : Bool := false
  categorizable : Bool := false
  commentable : Bool := false
  likeable : Switch LikeOptions := .enabled false
  auth : Switch AuthOptions := .enabled false
  search : Switch SearchOptions := .enabled false
deriving DecidableEq, Repr

namespace Observe

def observes (o : Observe) (event : LifecycleEvent) : Bool :=
  match o with
  | .all enabled => enabled
  | .events list => list.contains event

def read : Reader Observe :=
  Reader.firstOf "ObserveConfig"
    [Reader.map .all Reader.boolean, Reader.map .events (Reader.list LifecycleEvent.read)]

def toValue : Observe → Value
  | .all enabled => .bool enabled
  | .events list => .list (list.map fun e => .text e.text)

end Observe

namespace Switch

def isEnabled {α : Type} : Switch α → Bool
  | .enabled on => on
  | .custom _ => true

/-- The details, or `defaults` for a plain switch. -/
def options {α : Type} (defaults : α) : Switch α → α
  | .enabled _ => defaults
  | .custom options => options

def read {α : Type} (type : String) (details : Reader α) : Reader (Switch α) :=
  Reader.firstOf type
    [Reader.map .enabled Reader.boolean, Reader.map .custom details]

def toValue {α : Type} (details : α → Value) : Switch α → Value
  | .enabled on => .bool on
  | .custom options => details options

end Switch

def textList (names : List String) : Value :=
  .list (names.map .text)

namespace LikeOptions

def read : Reader LikeOptions :=
  Reader.readRecord "LikeableOptions"
    [.optional "table" Reader.text fun o t => { o with table := t },
      .optional "foreign_key" Reader.text fun o k => { o with foreignKey := k }] {}

def toValue (o : LikeOptions) : Value :=
  .object [("foreign_key", .optionalText o.foreignKey), ("table", .optionalText o.table)]

end LikeOptions

namespace AuthOptions

def read : Reader AuthOptions :=
  Reader.readRecord "AuthOptions"
    [.defaulted "use_two_factor" Reader.boolean fun o b => { o with twoFactor := b },
      .defaulted "use_passkey" Reader.boolean fun o b => { o with passkey := b }] {}

def toValue (o : AuthOptions) : Value :=
  .object [("use_passkey", .bool o.passkey), ("use_two_factor", .bool o.twoFactor)]

end AuthOptions

namespace SearchOptions

def read : Reader SearchOptions :=
  Reader.readRecord "SearchOptions"
    [.defaulted "searchable" (Reader.list Reader.text) fun o l => { o with searchable := l },
      .defaulted "sortable" (Reader.list Reader.text) fun o l => { o with sortable := l },
      .defaulted "filterable" (Reader.list Reader.text) fun o l => { o with filterable := l },
      .defaulted "displayable" (Reader.list Reader.text) fun o l => { o with displayable := l }] {}

def toValue (o : SearchOptions) : Value :=
  .object
    [("displayable", textList o.displayable), ("filterable", textList o.filterable),
      ("searchable", textList o.searchable), ("sortable", textList o.sortable)]

end SearchOptions

namespace Traits

/-- Only the detailed form of authentication switches two-factor secrets on. -/
def usesTwoFactor (t : Traits) : Bool := (t.auth.options {}).twoFactor

def usesPasskey (t : Traits) : Bool := (t.auth.options {}).passkey

def read : Reader Traits :=
  Reader.readRecord "TraitFlags"
    [.defaulted "use_timestamps" Reader.boolean fun t b => { t with timestamps := b },
      .defaulted "use_soft_deletes" Reader.boolean fun t b => { t with softDeletes := b },
      .defaulted "use_uuid" Reader.boolean fun t b => { t with uuid := b },
      .defaulted "observe" Observe.read fun t o => { t with observe := o },
      .defaulted "billable" Reader.boolean fun t b => { t with billable := b },
      .defaulted "taggable" Reader.boolean fun t b => { t with taggable := b },
      .defaulted "categorizable" Reader.boolean fun t b => { t with categorizable := b },
      .defaulted "commentable" Reader.boolean fun t b => { t with commentable := b },
      .defaulted "likeable" (Switch.read "LikeableConfig" LikeOptions.read) fun t l =>
        { t with likeable := l },
      .defaulted "use_auth" (Switch.read "AuthConfig" AuthOptions.read) fun t a =>
        { t with auth := a },
      .defaulted "use_search" (Switch.read "SearchConfig" SearchOptions.read) fun t s =>
        { t with search := s }] {}

/-- The declared form. -/
def toValue (t : Traits) : Value :=
  .object
    [("billable", .bool t.billable), ("categorizable", .bool t.categorizable),
      ("commentable", .bool t.commentable), ("likeable", t.likeable.toValue LikeOptions.toValue),
      ("observe", t.observe.toValue), ("taggable", .bool t.taggable),
      ("use_auth", t.auth.toValue AuthOptions.toValue),
      ("use_search", t.search.toValue SearchOptions.toValue),
      ("use_soft_deletes", .bool t.softDeletes), ("use_timestamps", .bool t.timestamps),
      ("use_uuid", .bool t.uuid)]

end Traits

end EntityStore
