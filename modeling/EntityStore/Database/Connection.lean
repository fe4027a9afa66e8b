import EntityStore.Config

/-!
# Connections and the options of transactions

What is checked before a server is connected to, and the options that a transaction can be opened
with. A store in memory honours neither option: its transactions see a copy of the store.
-/

namespace EntityStore

/-- How much transactions see of each other. -/
inductive IsolationLevel where
  | readUncommitted
  | readCommitted
  | repeatableRead
  | serializable
deriving DecidableEq, Repr

namespace IsolationLevel

/-- Every level, the weakest first. -/
def all : List IsolationLevel :=
  [.readUncommitted, .readCommitted, .repeatableRead, .serializable]

def text : IsolationLevel → String
  | .readUncommitted => "READ UNCOMMITTED"
  | .readCommitted => "READ COMMITTED"
  | .repeatableRead => "REPEATABLE READ"
  | .serializable => "SERIALIZABLE"

end IsolationLevel

/-- The options of a transaction; without a level the server decides. -/
structure TransactionOptions where
  isolation : Option IsolationLevel := none
  readOnly : Bool := false
deriving DecidableEq, Repr

/-- The URL of the server to connect to, for settings that pass their checks. -/
def Config.serverUrl (c : Config) : Except Error String := do
  c.validate
  match c.databaseUrl with
  | some url => .ok url
  | none => .error .noDatabaseUrl

end EntityStore
