import EntityStore.Sql.Render
import EntityStore.Store.Engine

/-!
# Preparing statements for a server

What is done with a statement before a server is asked: a write without effect is answered at once,
all else is rendered.
-/

namespace EntityStore.Sql

/-- A statement that is answered at once, or the text and values to send. -/
inductive Preparation where
  | answered (answer : Store.WriteAnswer)
  | send (rendered : Rendered)
deriving DecidableEq, Repr

/-- The answer of a write that would change nothing. -/
def idleAnswer? : Statement → Option Store.WriteAnswer
  | .write (.insert s) => if s.rows.isEmpty then some (.inserted []) else none
  | .write (.update s) => if s.values.isEmpty then some (.changed 0) else none
  | _ => none

/-- Prepares a statement, unless one of its names is refused. -/
def prepare (types : ColumnTypes) (statement : Statement) : Except Error Preparation :=
  match idleAnswer? statement with
  | some answer => .ok (.answered answer)
  | none => (render types statement).map .send

end EntityStore.Sql
