import EntityStore.Row

/-!
# Documents

A document is a tree of data in the order in which it was written. It is what JSON holds, and what
YAML holds once its scalars are taken for what they stand for, and it is what declarations are read
from.
-/

namespace EntityStore

/-- What a key of written data means to a structure: the name of a field, the place of a field, or
nothing. -/
inductive FieldKey where
  | name (s : String)
  | place (n : Nat)
  | other
deriving DecidableEq, Repr

/-- Data in written order; a record may hold one name several times. A table is a record some key of
which is no text. -/
inductive Document where
  | null
  | bool (b : Bool)
  | number (n : Number)
  | text (s : String)
  | list (items : List Document)
  | record (fields : List (String × Document))
  | table (entries : List (FieldKey × Document))
deriving Repr, Inhabited

namespace Document

mutual

/-- The value of a document: names in order, the last of several equal names counts. Keys that are
no texts have no place in a value. -/
def toValue : Document → Value
  | .null => .null
  | .bool b => .bool b
  | .number n => .number n
  | .text s => .text s
  | .list items => .list (toValues items)
  | .record fields => .object (toFields [] fields)
  | .table _ => .null

/-- The values of a list of documents. -/
def toValues : List Document → List Value
  | [] => []
  | d :: rest => toValue d :: toValues rest

/-- The fields of a record, set one after the other. -/
def toFields (done : List (String × Value)) : List (String × Document) → List (String × Value)
  | [] => done
  | (name, d) :: rest => toFields (setField name (toValue d) done) rest

end

mutual

/-- A value as a document. -/
def ofValue : Value → Document
  | .null => .null
  | .bool b => .bool b
  | .number n => .number n
  | .text s => .text s
  | .list items => .list (ofValues items)
  | .object fields => .record (ofFields fields)

/-- A list of values as documents. -/
def ofValues : List Value → List Document
  | [] => []
  | v :: rest => ofValue v :: ofValues rest

/-- The fields of an object as documents. -/
def ofFields : List (String × Value) → List (String × Document)
  | [] => []
  | (name, v) :: rest => (name, ofValue v) :: ofFields rest

end

/-- The first field of that name, `null` when there is none. -/
def field (d : Document) (name : String) : Document :=
  match d with
  | .record fields => (fieldOf? name fields).getD .null
  | _ => .null

end Document

end EntityStore
