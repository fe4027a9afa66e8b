import EntityStore.Error
import EntityStore.Text.Alphabet
import EntityStore.Url.Basic

/-!
# Configuration

Settings with their defaults, read from named text variables and checked before use.
-/

namespace EntityStore

structure Config where
  /-- Rows of a page when the caller does not say. -/
  defaultPageSize : Nat := 10
  /-- Rows that a `hasMany` relation fetches when it does not say. -/
  relationPageSize : Nat := 10
  /-- Lifecycle events are announced. -/
  dispatchEvents : Bool := true
  /-- Rows are validated before they are written. -/
  validateOnWrite : Bool := true
  databaseUrl : Option String := none
deriving DecidableEq, Repr

/-- The settings of a pool of connections; times in seconds. -/
structure PoolConfig where
  maxConnections : Nat := 10
  minConnections : Nat := 1
  acquireTimeout : Nat := 30
  idleTimeout : Nat := 600
  maxLifetime : Nat := 1800
  testBeforeAcquire : Bool := true

namespace Config

def hasDatabase (c : Config) : Bool :=
  c.databaseUrl.isSome

/-- Settings given as data; those that are left out have their defaults. -/
def read : Reader Config :=
  Reader.readRecord "Config"
    [.defaulted "default_page_size" Reader.count fun c n => { c with defaultPageSize := n },
      .defaulted "relation_page_size" Reader.count fun c n => { c with relationPageSize := n },
      .defaulted "dispatch_events" Reader.boolean fun c b => { c with dispatchEvents := b },
      .defaulted "validate_on_write" Reader.boolean fun c b => { c with validateOnWrite := b },
      .optional "database_url" Reader.text fun c s => { c with databaseUrl := s }] {}

def toValue (c : Config) : Value :=
  .object [("database_url", .optionalText c.databaseUrl),
    ("default_page_size", .int c.defaultPageSize), ("dispatch_events", .bool c.dispatchEvents),
    ("has_database", .bool c.hasDatabase), ("relation_page_size", .int c.relationPageSize),
    ("validate_on_write", .bool c.validateOnWrite)]

/-- A decimal number of 64 bits, with an optional plus sign. -/
def readCount? (text : String) : Option Nat :=
  let digits :=
    match text.toList with
    | '+' :: rest => rest
    | cs => cs
  if digits.isEmpty || !digits.all Char.isDigit then none
  else if digitsValue digits ≤ maxUInt64 then some (digitsValue digits) else none

def readFlag? (text : String) : Option Bool :=
  if text = "true" then some true else if text = "false" then some false else none

/-- What `read?` makes of a variable without the blanks around it, if the variable is set. -/
def readVariable {α : Type} (environment : List (String × String)) (name expected : String)
    (read? : String → Option α) : Except Error (Option α) :=
  match environment.lookup name with
  | none => .ok none
  | some raw =>
    match read? (Text.trim raw) with
    | some a => .ok (some a)
    | none => .error (.config (.invalidValue name raw expected))

/-- Checks the database URL: an absolute URL of the right scheme. -/
def validateUrl (url : String) : Except Error Unit :=
  let unusable (expected : String) : Except Error Unit :=
    .error (.config (.invalidValue "database_url" url expected))
  match Url.scheme url with
  | .ok scheme =>
    if scheme = "postgres" ∨ scheme = "postgresql" then .ok ()
    else unusable "postgres:// or postgresql:// scheme"
  | .error fault => unusable ("valid connection URL (" ++ fault.message ++ ")")

/-- Checks the settings: page sizes are positive and the URL is one. -/
def validate (c : Config) : Except Error Unit :=
  let positive (field : String) (n : Nat) : Except Error Unit :=
    if n = 0 then .error (.config (.validationFailed field "must be greater than zero"))
    else .ok ()
  do
    positive "default_page_size" c.defaultPageSize
    positive "relation_page_size" c.relationPageSize
    match c.databaseUrl with
    | some url => validateUrl url
    | none => .ok ()

/-- The settings of the given variables, checked. -/
def ofVariables (environment : List (String × String)) : Except Error Config := do
  let defaults : Config := {}
  let pageSize ← readVariable environment "FORGE_DEFAULT_PAGE_SIZE" "positive integer" readCount?
  let relationSize ←
    readVariable environment "FORGE_RELATION_PAGE_SIZE" "positive integer" readCount?
  let events ← readVariable environment "FORGE_DISPATCH_EVENTS" "true or false" readFlag?
  let validation ← readVariable environment "FORGE_VALIDATE_ON_WRITE" "true or false" readFlag?
  let config : Config :=
    { defaultPageSize := pageSize.getD defaults.defaultPageSize
      relationPageSize := relationSize.getD defaults.relationPageSize
      dispatchEvents := events.getD defaults.dispatchEvents
      validateOnWrite := validation.getD defaults.validateOnWrite
      databaseUrl := environment.lookup "DATABASE_URL" }
  config.validate
  pure config

end Config

end EntityStore
