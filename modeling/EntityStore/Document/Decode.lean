import EntityStore.Text.Shown
import EntityStore.Value.Text
import EntityStore.Yaml.Data

/-!
# Typed reading of documents

Readers that turn a document into data of a fixed shape, and refuse one of another shape. A reader
reads data, and it reads YAML as it is written, where a scalar without quotes is a text wherever a
text is wanted. `readRecord` reads a structure field by field, in the order in which the document
has them; a list of data gives the fields by position.
-/

namespace EntityStore

/-- A reader of data and of nodes of YAML. -/
structure Reader (α : Type) where
  ofData : Document → Except DecodeError α
  ofNode : Yaml.Node → Yaml.Reading α

namespace Reader

instance {α : Type} : CoeFun (Reader α) (fun _ => Document → Except DecodeError α) := ⟨ofData⟩

/-- What a document is, in the words of a message. -/
def kindOf : Document → String
  | .null => "null"
  | .bool b => "boolean " ++ DecodeError.ticked (if b then "true" else "false")
  | .number (.int n) => "integer " ++ DecodeError.ticked (toString n)
  | .number (.float x) => "floating point " ++ DecodeError.ticked x.dataText
  | .text s => "string " ++ Text.shown s
  | .list _ => "sequence"
  | .record _ | .table _ => "map"

def mismatch {α : Type} (expected : String) (d : Document) : Except DecodeError α :=
  .error (.invalidType (kindOf d) expected)

/-- Reads with `read` and applies `f`. -/
def map {α β : Type} (f : α → β) (read : Reader α) : Reader β where
  ofData d := f <$> read.ofData d
  ofNode node := f <$> read.ofNode node

/-- Any data. -/
def value : Reader Value where
  ofData d := .ok d.toValue
  ofNode node := return (← Yaml.data node).toValue

/-- The text of a scalar, however it is written. -/
def text : Reader String where
  ofData
    | .text s => .ok s
    | d => mismatch "a string" d
  ofNode node := do
    match ← Yaml.follow node with
    | .scalar _ _ s => return s
    | node => Yaml.mismatch "a string" node

/-- A scalar that is data: a plain one, or a kept block with a tag that says so. -/
def scalar {α : Type} (type expected : String) (read? : String → Option α)
    (node : Yaml.Node) : Yaml.Reading α := do
  match ← Yaml.follow node with
  | .scalar p style s =>
    let isData := style = .plain || (style = .literal && p.tag = some (Yaml.Node.coreTag type))
    match read? s with
    | some a => if isData then return a else Yaml.mismatch expected node
    | none => Yaml.mismatch expected node
  | node => Yaml.mismatch expected node

def boolean : Reader Bool where
  ofData
    | .bool b => .ok b
    | d => mismatch "a boolean" d
  ofNode := scalar "bool" "a boolean" Yaml.boolean?

/-- An integer between two bounds. -/
def integer (low high : Int) (name : String) : Reader Int where
  ofData
    | .number (.int n) =>
      if low ≤ n ∧ n ≤ high then .ok n else .error (.invalidValue (kindOf (.number (.int n))) name)
    | d => mismatch name d
  ofNode :=
    scalar "int" name fun s => (Yaml.integer? s).filter fun n => low ≤ n && n ≤ high

def int64 : Reader Int := integer minInt64 maxInt64 "i64"

/-- An unsigned integer of 32 bits. -/
def count32 : Reader Nat := map Int.toNat (integer 0 4294967295 "u32")

/-- An unsigned integer of 64 bits. -/
def count : Reader Nat := map Int.toNat (integer 0 maxUInt64 "usize")

def float : Reader Binary64 where
  ofData
    | .number n => .ok n.toFloat
    | d => mismatch "f64" d
  ofNode := scalar "float" "f64" Yaml.float?

/-- A scalar stands for nothing: an empty or null plain one. Of the scalars with a tag, only null
does, under its own tag, which nothing else may have. -/
def isNothing (tag : Option String) (style : Yaml.Style) (s : String) : Yaml.Reading Bool :=
  if style != .plain then return false
  else if tag = some (Yaml.Node.coreTag "null") then
    if Yaml.isNullWord s then return true
    else Yaml.mismatch "null" (.scalar { tag } style s)
  else return tag.isNone && (s.isEmpty || Yaml.isNullWord s)

/-- Nothing for null, else what `read` makes of the document. -/
def optional {α : Type} (read : Reader α) : Reader (Option α) where
  ofData
    | .null => .ok none
    | d => (read d).map some
  ofNode node := do
    let node ← Yaml.follow node
    match node with
    | .scalar p style s =>
      if ← isNothing p.tag style s then return none
    | _ => pure ()
    return some (← read.ofNode node)

/-- A list of things that `read` reads; in YAML an empty plain scalar is an empty list. -/
def list {α : Type} (read : Reader α) : Reader (List α) where
  ofData
    | .list items => items.mapM read
    | d => mismatch "a sequence" d
  ofNode node := do
    match ← Yaml.follow node with
    | .sequence _ items => Yaml.inside node (items.mapM read.ofNode)
    | .scalar _ .plain "" => return []
    | node => Yaml.mismatch "a sequence" node

/-- Replaces the thing of that name where it stands, or adds it at the end. -/
def putEntry {α : Type} (name : String) (a : α) : List (String × α) → List (String × α)
  | [] => [(name, a)]
  | (k, b) :: rest => if k = name then (k, a) :: rest else (k, b) :: putEntry name a rest

/-- The entries of a mapping, what its keys and values are read as. -/
def mapping {α β : Type} (node : Yaml.Node) (entry : Yaml.Node → Yaml.Node → Yaml.Reading β)
    (finish : List β → Yaml.Reading α) : Yaml.Reading α := do
  match ← Yaml.follow node with
  | .mapping _ entries =>
    Yaml.inside node do finish (← entries.mapM fun (key, value) => entry key value)
  | .scalar _ .plain "" => finish []
  | node => Yaml.mismatch "a map" node

/-- Named things in the order of their first mention; the last mention counts. -/
def entries {α : Type} (read : Reader α) : Reader (List (String × α)) where
  ofData
    | .record fields =>
      fields.foldlM (fun done field => (read field.2).map fun a => putEntry field.1 a done) []
    | d => mismatch "a map" d
  ofNode node :=
    mapping node (fun key value => do return (← text.ofNode key, ← read.ofNode value))
      fun named => return named.foldl (fun done entry => putEntry entry.1 entry.2 done) []

/-- One of several names. A record with a single null field names it too, and so does the tag of an
empty or null plain scalar. -/
def variant {α : Type} [BEq α] (names : List (String × α)) : Reader α where
  ofData d :=
    match d with
    | .text s => named s
    | .record [(name, d)] => do unit d (← named name)
    | .table [(.place n, d)] =>
      match (names.map (·.2)).eraseDups[n]? with
      | some a => unit d a
      | none => mismatch "a variant" d
    | .record _ => .error (.invalidValue "map" "map with a single key")
    | d => mismatch "string or map" d
  ofNode node := do
    match ← Yaml.follow node with
    | .scalar p style s =>
      match p.tag.filter (·.startsWith "!") with
      | none => named s
      | some tag =>
        let a ← named (tag.drop 1).toString
        if style = .plain && (s.isEmpty || Yaml.isNullWord s) then return a
        else Yaml.mismatch "null" node
    | node => Yaml.mismatch "a tag" node
where
  named {m : Type → Type} [Monad m] [MonadExceptOf DecodeError m] (name : String) : m α :=
    match names.lookup name with
    | some a => pure a
    | none => throw (.unknownVariant name (names.map (·.1)))
  unit (d : Document) (a : α) : Except DecodeError α :=
    match d with
    | .null => .ok a
    | d => mismatch "unit" d

/-- What a structure does without a field: refuse, take nothing, or keep its default. -/
inductive Absence where
  | required
  | nullable
  | defaulted
deriving DecidableEq

/-- A field of a structure `α`: its names, its absence, and how it is set. -/
structure Field (α : Type) where
  names : List String
  absence : Absence
  read : Reader (α → α)

/-- A field that must be present. -/
def Field.required {α β : Type} (name : String) (read : Reader β) (put : α → β → α) : Field α :=
  ⟨[name], .required, map (fun b a => put a b) read⟩

/-- A field that may be null or left out of a record, but has its place in a list. -/
def Field.nullable {α β : Type} (name : String) (read : Reader β) (put : α → Option β → α) :
    Field α :=
  ⟨[name], .nullable, map (fun b a => put a b) (Reader.optional read)⟩

/-- A field that may be null or left out. -/
def Field.optional {α β : Type} (name : String) (read : Reader β) (put : α → Option β → α) :
    Field α :=
  ⟨[name], .defaulted, map (fun b a => put a b) (Reader.optional read)⟩

/-- A field that keeps its default when it is left out. -/
def Field.defaulted {α β : Type} (name : String) (read : Reader β) (put : α → β → α) : Field α :=
  ⟨[name], .defaulted, map (fun b a => put a b) read⟩

/-- The field that a key means, if it means one. -/
def fieldOf? {α : Type} (fields : List (Field α)) : FieldKey → Except DecodeError (Option (Field α))
  | .name name => .ok (fields.find? (·.names.contains name))
  | .place n => .ok fields[n]?
  | .other => .error (.invalidType "key" "field identifier")

/-- Sets the fields that a record holds, in its order; `seen` holds the names set before. -/
def setFields {m : Type → Type} [Monad m] [MonadExceptOf DecodeError m] {α δ : Type}
    (read : Reader (α → α) → δ → m (α → α)) (fields : List (Field α))
    (seen : List (List String)) (a : α) : List (FieldKey × δ) → m (α × List (List String))
  | [] => return (a, seen)
  | (key, d) :: rest => do
    match fieldOf? fields key with
    | .error e => throw e
    | .ok none => setFields read fields seen a rest
    | .ok (some field) =>
      if seen.contains field.names then throw (.duplicateField (field.names.headD ""))
      let set ← read field.read d
      setFields read fields (field.names :: seen) (set a) rest

/-- Sets the fields that a list holds, by position. `place` is the position of the next field. -/
def setPositions {α : Type} (length place : Nat) (expected : String) (a : α) :
    List (Field α) → List Document → Except DecodeError α
  | [], [] => .ok a
  | [], _ :: _ => .error (.invalidLength length "fewer elements in array")
  | field :: fields, [] =>
    if field.absence = .defaulted then setPositions length (place + 1) expected a fields []
    else .error (.invalidLength place expected)
  | field :: fields, d :: rest =>
    (field.read d).bind fun set => setPositions length (place + 1) expected (set a) fields rest

/-- A structure whose fields are given by keys. -/
def readNamed {m : Type → Type} [Monad m] [MonadExceptOf DecodeError m] {α δ : Type}
    (read : Reader (α → α) → δ → m (α → α)) (fields : List (Field α)) (defaults : α)
    (entries : List (FieldKey × δ)) : m α := do
  let (a, seen) ← setFields read fields [] defaults entries
  match fields.find? fun f => f.absence = .required && !seen.contains f.names with
  | some field => throw (.missingField (field.names.headD ""))
  | none => return a

/-- A structure of the given fields, starting from its defaults. In YAML an empty plain scalar gives
no field, and a list is no structure. -/
def readRecord {α : Type} (type : String) (fields : List (Field α)) (defaults : α) : Reader α where
  ofData
    | .record entries =>
      readNamed Reader.ofData fields defaults (entries.map fun (name, d) => (.name name, d))
    | .table entries => readNamed Reader.ofData fields defaults entries
    | .list items =>
      setPositions items.length 0
        ("struct " ++ type ++ " with " ++ toString fields.length ++
          (if fields.length = 1 then " element" else " elements"))
        defaults fields items
    | d => mismatch ("struct " ++ type) d
  ofNode node :=
    mapping node (fun key value => do return (FieldKey.name (← text.ofNode key), value))
      (readNamed Reader.ofNode fields defaults)

/-- The first of several forms that reads the document as data. -/
def firstOf {α : Type} (type : String) (forms : List (Reader α)) : Reader α :=
  let read {m : Type → Type} [Monad m] [MonadExceptOf DecodeError m] (d : Document) : m α :=
    match forms.findSome? fun form => (form.ofData d).toOption with
    | some a => pure a
    | none => throw (.noVariant type)
  { ofData := read, ofNode := fun node => do read (← Yaml.data node) }

/-- Reads a text of YAML that holds one document. -/
def ofYaml? {α : Type} (read : Reader α) (source : String) : Option α :=
  (Yaml.Node.ofText? source).bind fun root => (Yaml.Reading.run read.ofNode root).toOption

end Reader

end EntityStore
