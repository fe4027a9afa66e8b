import EntityStore.Association.Categories
import EntityStore.Association.Comments
import EntityStore.Association.Likes
import EntityStore.Proofs.Tables

/-!
# Records and their rows

Tags, comments and categories are written into rows and read back from them. The row of a record
shows its columns in order (`Row.ascending`); a new row with its stamps and its key is the row of a
new record, and what is read back from the row of a record is the record.
-/

namespace EntityStore

theorem fieldOf?_eq_none {α : Type} {name : String} {fields : List (String × α)}
    (absent : name ∉ fields.map (·.1)) : fieldOf? name fields = none := by
  induction fields with
  | nil => rfl
  | cons field rest ih =>
    rw [List.map_cons, List.mem_cons, not_or] at absent
    rw [fieldOf?, if_neg (Ne.symm absent.1), ih absent.2]

theorem Ascending.fieldOf?_of_mem {α : Type} {fields : List (String × α)}
    (ascending : Ascending fields)
    {field : String × α} (mem : field ∈ fields) : fieldOf? field.1 fields = some field.2 := by
  induction fields with
  | nil => cases mem
  | cons first rest ih =>
    obtain ⟨above, tail⟩ := List.pairwise_cons.1 ascending
    rcases List.mem_cons.1 mem with rfl | mem
    · rw [fieldOf?, if_pos rfl]
    · have different : first.1 ≠ field.1 := fun same =>
        String.lt_irrefl field.1 (same ▸ above field mem)
      rw [fieldOf?, if_neg different, ih tail mem]

theorem mem_of_fieldOf? {α : Type} {name : String} {value : α} {fields : List (String × α)}
    (found : fieldOf? name fields = some value) : (name, value) ∈ fields := by
  induction fields with
  | nil => cases found
  | cons first rest ih =>
    obtain ⟨other, v⟩ := first
    rw [fieldOf?] at found
    split at found
    · next same =>
      cases found
      rw [same]
      exact List.mem_cons_self
    · exact List.mem_cons_of_mem _ (ih found)

theorem Ascending.of_names {α : Type} {fields : List (String × α)} (names : List String)
    (same : fields.map (·.1) = names) (ascend : names.Pairwise (· < ·)) : Ascending fields :=
  List.pairwise_map.1 (same ▸ ascend)

namespace Row

/-- A row is known by the fields of the other: it shows them, and nothing else. -/
theorem ext_of_fields {row other : Row} (none : ∀ name, name ∉ other.keys → row.get? name = none)
    (same : ∀ field ∈ other.fields, row.get? field.1 = some field.2) : row = other := by
  apply Row.ext_get?
  intro name
  by_cases mem : name ∈ other.keys
  · obtain ⟨field, hfield, rfl⟩ := List.mem_map.1 mem
    rw [same field hfield, Row.get?, other.ascending.fieldOf?_of_mem hfield]
  · rw [none name mem, Row.get?, fieldOf?_eq_none mem]

theorem contains_of_mem_keys {row : Row} {name : String} (mem : name ∈ row.keys) :
    row.contains name = true := by
  obtain ⟨field, hfield, rfl⟩ := List.mem_map.1 mem
  rw [contains, get?, row.ascending.fieldOf?_of_mem hfield]
  rfl

/-- A name under which nothing is found is no name of a field. -/
theorem not_mem_keys {row : Row} {name : String} (absent : row.get? name = none) :
    name ∉ row.keys := by
  intro mem
  have carried := contains_of_mem_keys mem
  rw [contains, absent] at carried
  cases carried

theorem get?_insertNew (row : Row) (name other : String) (v : Value) :
    (row.insertNew name v).get? other =
      (row.get? other).or (if other = name then some v else none) := by
  unfold insertNew contains
  split
  · next carried =>
    obtain ⟨own, found⟩ := Option.isSome_iff_exists.1 carried
    by_cases same : other = name
    · rw [same, found, Option.some_or]
    · rw [if_neg same, Option.or_none]
  · next absent =>
    rw [Option.not_isSome_iff_eq_none] at absent
    rw [get?_insert]
    by_cases same : other = name
    · rw [same, absent, if_pos rfl, Option.none_or]
    · rw [if_neg same, if_neg same, Option.or_none]

/-- A row with its stamps shows its own columns, and behind them the stamps. -/
theorem get?_stamped (row : Row) (stamp name : String) :
    (row.stamped stamp).get? name =
      ((row.get? name).or (if name = "created_at" then some (.text stamp) else none)).or
        (if name = "updated_at" then some (.text stamp) else none) := by
  rw [stamped, get?_insertNew, get?_insertNew]

/-- A row that carries no stamps is given both. -/
theorem stamped_eq {row : Row} (created : row.get? "created_at" = none)
    (updated : row.get? "updated_at" = none) (stamp : String) :
    row.stamped stamp =
      (row.insert "created_at" (.text stamp)).insert "updated_at" (.text stamp) := by
  apply Row.ext_get?
  intro name
  rw [get?_stamped, get?_insert, get?_insert]
  by_cases first : name = "created_at"
  · subst first
    simp [created]
  · by_cases second : name = "updated_at"
    · subst second
      simp [updated]
    · simp [first, second]

/-- A row with its stamps and its key is the row of a record if it shows the fields of the record and
the columns that it has itself are among them. -/
theorem stamped_keyed {row record : Row} {stamp : String} {id : Int} (names : List String)
    (others : ∀ {name}, name ∉ names → row.get? name = none)
    (unstamped : "created_at" ∉ names ∧ "updated_at" ∉ names)
    (among : ∀ name ∈ "id" :: "created_at" :: "updated_at" :: names, name ∈ record.keys)
    (shows : ∀ field ∈ record.fields, (((row.insert "created_at" (.text stamp)).insert "updated_at"
      (.text stamp)).insert "id" (.int id)).get? field.1 = some field.2) :
    (row.stamped stamp).insert "id" (.int id) = record := by
  rw [stamped_eq (others unstamped.1) (others unstamped.2)]
  refine ext_of_fields (fun name absent => ?_) shows
  have other : name ∉ "id" :: "created_at" :: "updated_at" :: names :=
    fun mem => absent (among name mem)
  simp only [List.mem_cons, not_or] at other
  obtain ⟨key, created, updated, own⟩ := other
  rw [get?_insert, if_neg key, get?_insert, if_neg updated, get?_insert, if_neg created, others own]

/-- Stamps are no key. -/
theorem stamped_keyless {row : Row} (keyless : row.get? "id" = none) (stamp : String) :
    (row.stamped stamp).get? "id" = none := by
  simp [get?_stamped, keyless]

end Row

/-! ### Reading a record field by field -/

namespace Reader

/-- An integer of 64 bits is read as it is. -/
theorem int64_number {n : Int} (fits : fitsInt64 n = true) : int64 (.number (.int n)) = .ok n := by
  obtain ⟨low, high⟩ := Bool.and_eq_true_iff.1 fits
  simp [int64, integer, of_decide_eq_true low, of_decide_eq_true high]

/-- A text that may be missing is read as it was written. -/
theorem optional_text (s : Option String) : optional text (.ofValue (.optionalText s)) = .ok s := by
  cases s <;> rfl

theorem status_text (status : CommentStatus) :
    CommentStatus.read (.text status.text) = .ok status := by
  cases status <;> rfl

variable {α β : Type} {fields : List (Field α)} {seen : List (List String)} {a : α} {name : String}
  {d : Document} {rest : List (FieldKey × Document)}

/-- An entry for a field that was not set before sets it. -/
theorem setFields_known {absence : Absence} {read : Reader β} {put : β → α → α} {b : β}
    (known : fields.find? (·.names.contains name) = some ⟨[name], absence, map put read⟩)
    (new : seen.contains [name] = false) (reads : read d = .ok b) :
    (setFields Reader.ofData fields seen a ((.name name, d) :: rest) : Except DecodeError _) =
      setFields Reader.ofData fields ([name] :: seen) (put b a) rest := by
  have set : (map put read).ofData d = .ok (put b) := by
    change put <$> read.ofData d = _
    rw [reads]
    rfl
  rw [setFields]
  simp only [fieldOf?, known, new, set]
  rfl

/-- An entry under a name that no field has is passed over. -/
theorem setFields_unknown (unknown : fields.find? (·.names.contains name) = none) :
    (setFields Reader.ofData fields seen a ((.name name, d) :: rest) : Except DecodeError _) =
      setFields Reader.ofData fields seen a rest := by
  rw [setFields]
  simp only [fieldOf?, unknown]

/-- A record is read when its entries can be set and no field is missing that is required. -/
theorem readNamed_ok {entries : List (FieldKey × Document)} {defaults : α}
    (set : setFields Reader.ofData fields [] defaults entries = .ok (a, seen))
    (complete : fields.find? (fun f => f.absence = .required && !seen.contains f.names) = none) :
    (readNamed Reader.ofData fields defaults entries : Except DecodeError α) = .ok a := by
  unfold readNamed
  simp only [set, complete, bind, Except.bind]
  rfl

end Reader

theorem Row.decode_ok {α : Type} {row : Row} {read : Reader α} {a : α}
    (reads : read (.ofValue row.toValue) = .ok a) : row.decode read = .ok a := by
  rw [Row.decode, reads]
  rfl

/-! ### Labels -/

theorem Label.get?_toRow (l : Label) (name : String) :
    l.toRow.get? name =
      if name = "is_active" then some (.bool true)
      else if name = "description" then some (.optionalText l.description)
      else if name = "name" then some (.text l.name)
      else if name = "slug" then some (.text (Naming.slugify l.name))
      else none := by
  simp only [Label.toRow, Row.ofFields, List.foldl, Row.get?_insert, Row.get?_empty]

theorem Label.get?_toRow_of_not_mem (l : Label) {name : String}
    (other : name ∉ ["description", "is_active", "name", "slug"]) : l.toRow.get? name = none := by
  simp only [List.mem_cons, List.not_mem_nil, or_false, not_or] at other
  simp only [l.get?_toRow, other, if_false]

/-! ### Tags -/

namespace Tag

/-- The row that holds a tag. -/
def toRow (t : Tag) : Row where
  fields :=
    [("created_at", .optionalText t.createdAt), ("description", .optionalText t.description),
      ("id", .int t.id), ("is_active", .bool t.isActive), ("name", .text t.name),
      ("order", .int t.order), ("slug", .text t.slug), ("taggable_id", .int t.ownerId),
      ("taggable_type", .text t.ownerType), ("updated_at", .optionalText t.updatedAt)]
  ascending := .of_names
    ["created_at", "description", "id", "is_active", "name", "order", "slug", "taggable_id",
      "taggable_type", "updated_at"] rfl (by decide)

theorem decode_toRow {t : Tag} (id : fitsInt64 t.id = true) (ownerId : fitsInt64 t.ownerId = true)
    (order : fitsInt64 t.order = true) : t.toRow.decode Tag.read = .ok t :=
  Row.decode_ok <| Reader.readNamed_ok
    ((Reader.setFields_known rfl rfl (Reader.optional_text _)).trans <|
      (Reader.setFields_known rfl rfl (Reader.optional_text _)).trans <|
      (Reader.setFields_known rfl rfl (Reader.int64_number id)).trans <|
      (Reader.setFields_known rfl rfl rfl).trans <|
      (Reader.setFields_known rfl rfl rfl).trans <|
      (Reader.setFields_known rfl rfl (Reader.int64_number order)).trans <|
      (Reader.setFields_known rfl rfl rfl).trans <|
      (Reader.setFields_known rfl rfl (Reader.int64_number ownerId)).trans <|
      (Reader.setFields_known rfl rfl rfl).trans <|
      (Reader.setFields_known rfl rfl (Reader.optional_text _)).trans rfl) rfl

/-- The columns of a new tag before its stamps and its key. -/
def newRow (l : Label) (ownerId : Int) (ownerType : String) : Row :=
  ((l.toRow.insert "order" (.int 0)).insert "taggable_id" (.int ownerId)).insert "taggable_type"
    (.text ownerType)

/-- The tag that a label makes. -/
def made (l : Label) (id ownerId : Int) (ownerType stamp : String) : Tag where
  id
  ownerId
  ownerType
  name := l.name
  slug := Naming.slugify l.name
  description := l.description
  createdAt := some stamp
  updatedAt := some stamp

theorem get?_newRow (l : Label) (ownerId : Int) (ownerType : String) {name : String}
    (other : name ∉ ["description", "is_active", "name", "order", "slug", "taggable_id",
      "taggable_type"]) : (newRow l ownerId ownerType).get? name = none := by
  simp only [List.mem_cons, List.not_mem_nil, or_false, not_or] at other
  simp only [newRow, Row.get?_insert, Label.get?_toRow, other, if_false]

theorem newRow_stamped (l : Label) (id ownerId : Int) (ownerType stamp : String) :
    ((newRow l ownerId ownerType).stamped stamp).insert "id" (.int id) =
      (made l id ownerId ownerType stamp).toRow := by
  refine Row.stamped_keyed _ (get?_newRow l ownerId ownerType) (by decide) ?_ ?_
  · simp [Row.keys, toRow]
  · simp [toRow, made, newRow, Row.get?_insert, Label.get?_toRow, Value.optionalText]

/-- The table of all tags. -/
def records : OwnedTable Tag where
  name := "taggables"
  row := toRow
  id := Tag.id
  keyed _ := rfl
  idColumn := "taggable_id"
  typeColumn := "taggable_type"
  owner t := ⟨t.ownerType, t.ownerId⟩
  plainId := by decide
  plainType := by decide
  ownedId _ := rfl
  ownedType _ := rfl

end Tag

/-! ### Comments -/

namespace Comment

/-- The row that holds a comment. -/
def toRow (c : Comment) : Row where
  fields :=
    [("body", .text c.body), ("commentables_id", .int c.ownerId),
      ("commentables_type", .text c.ownerType), ("created_at", .optionalText c.createdAt),
      ("id", .int c.id), ("status", .text c.status.text), ("title", .text c.title),
      ("updated_at", .optionalText c.updatedAt)]
  ascending := .of_names
    ["body", "commentables_id", "commentables_type", "created_at", "id", "status", "title",
      "updated_at"] rfl (by decide)

theorem decode_toRow {c : Comment} (id : fitsInt64 c.id = true)
    (ownerId : fitsInt64 c.ownerId = true) :
    c.toRow.decode Comment.read = .ok c :=
  Row.decode_ok <| Reader.readNamed_ok
    ((Reader.setFields_known rfl rfl rfl).trans <|
      (Reader.setFields_known rfl rfl (Reader.int64_number ownerId)).trans <|
      (Reader.setFields_known rfl rfl rfl).trans <|
      (Reader.setFields_known rfl rfl (Reader.optional_text _)).trans <|
      (Reader.setFields_known rfl rfl (Reader.int64_number id)).trans <|
      (Reader.setFields_known rfl rfl (Reader.status_text _)).trans <|
      (Reader.setFields_known rfl rfl rfl).trans <|
      (Reader.setFields_known rfl rfl (Reader.optional_text _)).trans rfl) rfl

/-- The columns of a new comment before its stamps and its key. -/
def newRow (title body : String) (ownerId : Int) (ownerType : String) : Row :=
  ((Row.ofFields [("title", .text title), ("body", .text body),
    ("status", .text CommentStatus.pending.text)]).insert "commentables_id" (.int ownerId)).insert
      "commentables_type" (.text ownerType)

/-- The comment that a title and a body make. -/
def made (title body : String) (id ownerId : Int) (ownerType stamp : String) : Comment where
  id
  ownerId
  ownerType
  title
  body
  createdAt := some stamp
  updatedAt := some stamp

theorem get?_newRow (title body : String) (ownerId : Int) (ownerType : String) {name : String}
    (other : name ∉ ["body", "commentables_id", "commentables_type", "status", "title"]) :
    (newRow title body ownerId ownerType).get? name = none := by
  simp only [List.mem_cons, List.not_mem_nil, or_false, not_or] at other
  simp only [newRow, Row.ofFields, List.foldl, Row.get?_insert, Row.get?_empty, other, if_false]

theorem newRow_stamped (title body : String) (id ownerId : Int) (ownerType stamp : String) :
    ((newRow title body ownerId ownerType).stamped stamp).insert "id" (.int id) =
      (made title body id ownerId ownerType stamp).toRow := by
  refine Row.stamped_keyed _ (get?_newRow title body ownerId ownerType) (by decide) ?_ ?_
  · simp [Row.keys, toRow]
  · simp [toRow, made, newRow, Row.ofFields, Row.get?_insert, Value.optionalText]

/-- The comment with another status since an instant. -/
def judged (c : Comment) (status : CommentStatus) (stamp : String) : Comment :=
  { c with status, updatedAt := some stamp }

/-- A status is written together with the instant of the change. -/
theorem toRow_merge (c : Comment) (status : CommentStatus) (stamp : String) :
    c.toRow.merge ((Row.empty.insert "status" (.text status.text)).insert "updated_at"
      (.text stamp)) = (c.judged status stamp).toRow := by
  refine Row.ext_of_fields ?_ ?_
  · intro name absent
    have plain : c.toRow.get? name = none := fieldOf?_eq_none absent
    simp only [Row.keys, toRow, List.map_cons, List.map_nil, List.mem_cons, List.not_mem_nil,
      or_false, not_or] at absent
    simp only [Row.get?_merge, Row.get?_insert, Row.get?_empty, absent, if_false, plain,
      Option.none_or]
  · simp only [Row.get?_merge, Row.get?_insert, Row.get?_empty, toRow, judged,
      List.forall_mem_cons, String.reduceEq, if_true, if_false, Option.none_or, Option.some_or]
    exact ⟨rfl, rfl, rfl, rfl, rfl, trivial, rfl, rfl, fun _ mem => nomatch mem⟩

/-- The table of all comments. -/
def records : OwnedTable Comment where
  name := "comments"
  row := toRow
  id := Comment.id
  keyed _ := rfl
  idColumn := "commentables_id"
  typeColumn := "commentables_type"
  owner c := ⟨c.ownerType, c.ownerId⟩
  plainId := by decide
  plainType := by decide
  ownedId _ := rfl
  ownedType _ := rfl

end Comment

/-! ### Categories and links to them -/

namespace Category

/-- The row that holds a category. -/
def toRow (c : Category) : Row where
  fields :=
    [("created_at", .optionalText c.createdAt), ("description", .optionalText c.description),
      ("id", .int c.id), ("is_active", .bool c.isActive), ("name", .text c.name),
      ("slug", .text c.slug), ("updated_at", .optionalText c.updatedAt)]
  ascending := .of_names
    ["created_at", "description", "id", "is_active", "name", "slug", "updated_at"] rfl (by decide)

theorem decode_toRow {c : Category} (id : fitsInt64 c.id = true) :
    c.toRow.decode Category.read = .ok c :=
  Row.decode_ok <| Reader.readNamed_ok
    ((Reader.setFields_known rfl rfl (Reader.optional_text _)).trans <|
      (Reader.setFields_known rfl rfl (Reader.optional_text _)).trans <|
      (Reader.setFields_known rfl rfl (Reader.int64_number id)).trans <|
      (Reader.setFields_known rfl rfl rfl).trans <|
      (Reader.setFields_known rfl rfl rfl).trans <|
      (Reader.setFields_known rfl rfl rfl).trans <|
      (Reader.setFields_known rfl rfl (Reader.optional_text _)).trans rfl) rfl

/-- The category that a label makes. -/
def made (l : Label) (id : Int) (stamp : String) : Category where
  id
  name := l.name
  slug := Naming.slugify l.name
  description := l.description
  createdAt := some stamp
  updatedAt := some stamp

theorem label_stamped (l : Label) (id : Int) (stamp : String) :
    (l.toRow.stamped stamp).insert "id" (.int id) = (made l id stamp).toRow := by
  refine Row.stamped_keyed _ l.get?_toRow_of_not_mem (by decide) ?_ ?_
  · simp [Row.keys, toRow]
  · simp [toRow, made, Row.get?_insert, Label.get?_toRow, Value.optionalText]

/-- The table of all categories. -/
def records : Table Category where
  name := Category.table
  row := toRow
  id := Category.id
  keyed _ := rfl

end Category

/-- A link as it is stored: an owner, a category, and the instant of the linking. -/
structure StoredLink where
  id : Int
  category : Int
  owner : Owner
  stamp : String
deriving DecidableEq, Repr

namespace StoredLink

/-- What is read of a link. -/
def link (l : StoredLink) : CategoryLink := ⟨l.id, l.category⟩

/-- The row that holds a link. -/
def toRow (l : StoredLink) : Row where
  fields :=
    [("categorizable_id", .int l.owner.id), ("categorizable_type", .text l.owner.type),
      ("category_id", .int l.category), ("created_at", .text l.stamp), ("id", .int l.id),
      ("updated_at", .text l.stamp)]
  ascending := .of_names
    ["categorizable_id", "categorizable_type", "category_id", "created_at", "id", "updated_at"]
    rfl (by decide)

theorem decode_toRow {l : StoredLink} (id : fitsInt64 l.id = true)
    (category : fitsInt64 l.category = true) : l.toRow.decode CategoryLink.read = .ok l.link :=
  Row.decode_ok <| Reader.readNamed_ok
    ((Reader.setFields_unknown rfl).trans <|
      (Reader.setFields_unknown rfl).trans <|
      (Reader.setFields_known rfl rfl (Reader.int64_number category)).trans <|
      (Reader.setFields_unknown rfl).trans <|
      (Reader.setFields_known rfl rfl (Reader.int64_number id)).trans <|
      (Reader.setFields_unknown rfl).trans rfl) rfl

/-- The columns of a new link before its stamps and its key. -/
def newRow (category : Int) (owner : Owner) : Row :=
  ((Row.empty.insert "category_id" (.int category)).insert "categorizable_id"
    (.int owner.id)).insert "categorizable_type" (.text owner.type)

theorem get?_newRow (category : Int) (owner : Owner) {name : String}
    (other : name ∉ ["categorizable_id", "categorizable_type", "category_id"]) :
    (newRow category owner).get? name = none := by
  simp only [List.mem_cons, List.not_mem_nil, or_false, not_or] at other
  simp only [newRow, Row.get?_insert, Row.get?_empty, other, if_false]

theorem newRow_stamped (id category : Int) (owner : Owner) (stamp : String) :
    ((newRow category owner).stamped stamp).insert "id" (.int id) =
      (toRow ⟨id, category, owner, stamp⟩) := by
  refine Row.stamped_keyed _ (get?_newRow category owner) (by decide) ?_ ?_
  · simp [Row.keys, toRow]
  · simp [toRow, newRow, Row.get?_insert]

/-- The table of all links. -/
def records : OwnedTable StoredLink where
  name := "categorizable_models"
  row := toRow
  id := StoredLink.id
  keyed _ := rfl
  idColumn := "categorizable_id"
  typeColumn := "categorizable_type"
  owner := StoredLink.owner
  plainId := by decide
  plainType := by decide
  ownedId _ := rfl
  ownedType _ := rfl

end StoredLink

end EntityStore
