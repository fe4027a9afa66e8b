import EntityStore.Value.Basic

/-!
# Rows

A row maps column names to values. It is kept as a list of fields in strictly ascending order of the
names, which is the order in which columns show in statements and answers; the order is part of the
type, so no row carries a column twice. The view of a row is `get?`; each operation comes with its
equation for it, and two rows of one view are equal (`Row.ext_get?`).
-/

namespace EntityStore

/-- The names of the fields ascend strictly. -/
def Ascending {α : Type} (fields : List (String × α)) : Prop :=
  fields.Pairwise fun a b => a.1 < b.1

/-- A row: the values of named columns. -/
structure Row where
  fields : List (String × Value)
  ascending : Ascending fields
deriving DecidableEq, Repr

/-- The value of the first field of that name. -/
def fieldOf? {α : Type} (name : String) : List (String × α) → Option α
  | [] => none
  | (k, v) :: rest => if k = name then some v else fieldOf? name rest

/-- Sets one field, keeping the order of the names. -/
def setField {α : Type} (name : String) (value : α) : List (String × α) → List (String × α)
  | [] => [(name, value)]
  | (k, v) :: rest =>
    if k = name then (name, value) :: rest
    else if name < k then (name, value) :: (k, v) :: rest
    else (k, v) :: setField name value rest

theorem fieldOf?_setField_self {α : Type} (name : String) (value : α)
    (fields : List (String × α)) : fieldOf? name (setField name value fields) = some value := by
  induction fields with
  | nil => simp [setField, fieldOf?]
  | cons field rest ih =>
    obtain ⟨k, v⟩ := field
    by_cases h : k = name
    · simp [setField, fieldOf?, h]
    · by_cases l : name < k <;> simp [setField, fieldOf?, h, l, ih]

theorem fieldOf?_setField_of_ne {α : Type} {name other : String} (value : α)
    (fields : List (String × α)) (h : other ≠ name) :
    fieldOf? other (setField name value fields) = fieldOf? other fields := by
  induction fields with
  | nil => simp [setField, fieldOf?, Ne.symm h]
  | cons field rest ih =>
    obtain ⟨k, v⟩ := field
    by_cases e : k = name
    · subst e; simp [setField, fieldOf?, Ne.symm h]
    · by_cases l : name < k
      · simp [setField, fieldOf?, e, l, Ne.symm h]
      · simp [setField, fieldOf?, e, l, ih]

theorem fieldOf?_of_lt {α : Type} {name : String} {fields : List (String × α)}
    (h : ∀ field ∈ fields, name < field.1) : fieldOf? name fields = none := by
  induction fields with
  | nil => rfl
  | cons field rest ih =>
    obtain ⟨k, v⟩ := field
    have first : name < k := h (k, v) List.mem_cons_self
    have different : k ≠ name := fun e => String.lt_irrefl name (e ▸ first)
    rw [fieldOf?, if_neg different]
    exact ih fun field hf => h field (List.mem_cons_of_mem _ hf)

theorem mem_setField {α : Type} {name : String} {value : α} {fields : List (String × α)}
    {field : String × α} (h : field ∈ setField name value fields) :
    field = (name, value) ∨ field ∈ fields := by
  induction fields with
  | nil => exact Or.inl (List.mem_singleton.1 h)
  | cons first rest ih =>
    obtain ⟨k, v⟩ := first
    unfold setField at h
    split at h
    · rcases List.mem_cons.1 h with h | h
      · exact Or.inl h
      · exact Or.inr (List.mem_cons_of_mem _ h)
    · split at h
      · exact List.mem_cons.1 h
      · rcases List.mem_cons.1 h with h | h
        · exact Or.inr (h ▸ List.mem_cons_self)
        · exact (ih h).imp_right (List.mem_cons_of_mem _)

namespace Ascending

variable {α : Type} {fields : List (String × α)}

theorem nil : Ascending ([] : List (String × α)) := List.Pairwise.nil

theorem filter (h : Ascending fields) (keep : String × α → Bool) :
    Ascending (fields.filter keep) :=
  List.Pairwise.filter keep h

/-- Setting a field keeps the order: a new name goes in front of the first larger one. -/
theorem setField (h : Ascending fields) (name : String) (value : α) :
    Ascending (setField name value fields) := by
  induction fields with
  | nil => exact List.pairwise_singleton _ _
  | cons field rest ih =>
    obtain ⟨k, v⟩ := field
    obtain ⟨above, tail⟩ := List.pairwise_cons.1 h
    unfold EntityStore.setField
    split
    · next same =>
      subst same
      exact List.pairwise_cons.2 ⟨above, tail⟩
    · next different =>
      split
      · next below =>
        refine List.pairwise_cons.2 ⟨?_, h⟩
        intro other hother
        rcases List.mem_cons.1 hother with rfl | hother
        · exact below
        · exact String.lt_trans below (above other hother)
      · next notBelow =>
        have kBelow : k < name := by
          rcases String.le_total k name with le | le
          · exact Classical.byContradiction fun notLt =>
              different (String.le_antisymm le (String.not_lt.1 notLt))
          · exact absurd (String.le_antisymm (String.not_lt.1 notBelow) le) different
        refine List.pairwise_cons.2 ⟨?_, ih tail⟩
        intro other hother
        rcases mem_setField hother with rfl | hother
        · exact kBelow
        · exact above other hother

theorem fieldOf?_head (k : String) (v : α) (rest : List (String × α)) :
    fieldOf? k ((k, v) :: rest) = some v := by
  rw [fieldOf?, if_pos rfl]

/-- No field of the rest has the name of the first. -/
theorem fieldOf?_tail {k : String} {v : α} (h : Ascending ((k, v) :: fields)) :
    fieldOf? k fields = none :=
  fieldOf?_of_lt fun field hf => (List.pairwise_cons.1 h).1 field hf

/-- A name below the first one is not there at all. -/
theorem fieldOf?_below {k name : String} {v : α} (h : Ascending ((k, v) :: fields))
    (below : name < k) : fieldOf? name ((k, v) :: fields) = none := by
  apply fieldOf?_of_lt
  intro field hf
  rcases List.mem_cons.1 hf with rfl | hf
  · exact below
  · exact String.lt_trans below ((List.pairwise_cons.1 h).1 field hf)

/-- Ascending lists that answer every name alike are equal. -/
theorem ext {other : List (String × α)} (hf : Ascending fields) (ho : Ascending other)
    (same : ∀ name, fieldOf? name fields = fieldOf? name other) : fields = other := by
  induction fields generalizing other with
  | nil =>
    cases other with
    | nil => rfl
    | cons field rest =>
      have := (same field.1).trans (fieldOf?_head field.1 field.2 rest)
      exact absurd this (by simp [fieldOf?])
  | cons field rest ih =>
    obtain ⟨k, v⟩ := field
    cases other with
    | nil =>
      have := (fieldOf?_head k v rest).symm.trans (same k)
      exact absurd this (by simp [fieldOf?])
    | cons field' rest' =>
      obtain ⟨l, w⟩ := field'
      have sameName : k = l := by
        apply String.le_antisymm
        · apply String.not_lt.1
          intro below
          have := (fieldOf?_below hf below).symm.trans (same l)
          exact absurd (this.trans (fieldOf?_head l w rest')) (by simp)
        · apply String.not_lt.1
          intro below
          have := (same k).trans (fieldOf?_below ho below)
          exact absurd ((fieldOf?_head k v rest).symm.trans this) (by simp)
      subst sameName
      have sameValue : v = w := by
        have := same k
        rwa [fieldOf?_head, fieldOf?_head, Option.some.injEq] at this
      subst sameValue
      congr 1
      apply ih (List.pairwise_cons.1 hf).2 (List.pairwise_cons.1 ho).2
      intro name
      by_cases first : k = name
      · subst first
        rw [fieldOf?_tail hf, fieldOf?_tail ho]
      · have := same name
        rwa [fieldOf?, fieldOf?, if_neg first, if_neg first] at this

end Ascending

namespace Row

def empty : Row := ⟨[], .nil⟩

instance : Inhabited Row := ⟨empty⟩

def isEmpty (row : Row) : Bool := row.fields.isEmpty

/-- The names of the columns that the row carries. -/
def keys (row : Row) : List String := row.fields.map (·.1)

def get? (row : Row) (name : String) : Option Value := fieldOf? name row.fields

def contains (row : Row) (name : String) : Bool := (row.get? name).isSome

def insert (row : Row) (name : String) (value : Value) : Row :=
  ⟨setField name value row.fields, row.ascending.setField name value⟩

/-- Sets a column that the row does not carry yet. -/
def insertNew (row : Row) (name : String) (value : Value) : Row :=
  if row.contains name then row else row.insert name value

/-- The row with all fields of `other` set. -/
def merge (row other : Row) : Row :=
  other.fields.foldl (fun r field => r.insert field.1 field.2) row

/-- The row of a list of fields; of two fields of one name the later one counts. -/
def ofFields (fields : List (String × Value)) : Row :=
  fields.foldl (fun r field => r.insert field.1 field.2) empty

/-- The fields that satisfy a test on name and value. -/
def filter (row : Row) (keep : String → Value → Bool) : Row :=
  ⟨row.fields.filter fun field => keep field.1 field.2, row.ascending.filter _⟩

/-- Equality of stored rows. -/
def same (row other : Row) : Bool := Value.sameFields row.fields other.fields

def toValue (row : Row) : Value := .object row.fields

@[simp] theorem get?_empty (name : String) : empty.get? name = none := rfl

@[simp] theorem get?_insert_self (row : Row) (name : String) (value : Value) :
    (row.insert name value).get? name = some value :=
  fieldOf?_setField_self name value row.fields

theorem get?_insert_of_ne (row : Row) {name other : String} (value : Value)
    (h : other ≠ name) : (row.insert name value).get? other = row.get? other :=
  fieldOf?_setField_of_ne value row.fields h

theorem get?_insert (row : Row) (name other : String) (value : Value) :
    (row.insert name value).get? other = if other = name then some value else row.get? other := by
  by_cases h : other = name
  · simp [h]
  · simp [h, get?_insert_of_ne row value h]

/-- Rows of the same view are equal. -/
theorem ext_get? {row other : Row} (same : ∀ name, row.get? name = other.get? name) :
    row = other := by
  obtain ⟨fields, hf⟩ := row
  obtain ⟨others, ho⟩ := other
  have : fields = others := hf.ext ho same
  subst this
  rfl

theorem get?_foldl_insert {fields : List (String × Value)} (h : Ascending fields) (row : Row)
    (name : String) :
    (fields.foldl (fun (r : Row) field => r.insert field.1 field.2) row).get? name =
      (fieldOf? name fields).or (row.get? name) := by
  induction fields generalizing row with
  | nil => rfl
  | cons field rest ih =>
    obtain ⟨k, v⟩ := field
    rw [List.foldl_cons, ih (List.pairwise_cons.1 h).2, get?_insert, fieldOf?]
    by_cases same : k = name
    · subst same
      rw [h.fieldOf?_tail, if_pos rfl, if_pos rfl]
      rfl
    · rw [if_neg same, if_neg (Ne.symm same)]

/-- A merged row shows the columns of the second row, and behind them those of the first. -/
theorem get?_merge (row other : Row) (name : String) :
    (row.merge other).get? name = (other.get? name).or (row.get? name) :=
  get?_foldl_insert other.ascending row name

theorem fieldOf?_filter {fields : List (String × Value)} (h : Ascending fields)
    (keep : String → Value → Bool) (name : String) :
    fieldOf? name (fields.filter fun field => keep field.1 field.2) =
      (fieldOf? name fields).filter (keep name) := by
  induction fields with
  | nil => rfl
  | cons field rest ih =>
    obtain ⟨k, v⟩ := field
    have tail := ih (List.pairwise_cons.1 h).2
    by_cases same : k = name
    · subst same
      rw [h.fieldOf?_tail] at tail
      cases kept : keep k v <;> simp [fieldOf?, Option.filter, kept, tail]
    · cases kept : keep k v <;> simp [fieldOf?, kept, same, tail]

/-- A filtered row shows the columns that satisfy the test. -/
theorem get?_filter (row : Row) (keep : String → Value → Bool) (name : String) :
    (row.filter keep).get? name = (row.get? name).filter (keep name) :=
  fieldOf?_filter row.ascending keep name

/-- The fields of a row make up that row. -/
theorem ofFields_fields (row : Row) : ofFields row.fields = row := by
  apply ext_get?
  intro name
  rw [ofFields, get?_foldl_insert row.ascending, get?_empty, Option.or_none]
  rfl

end Row

end EntityStore
