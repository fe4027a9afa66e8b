import EntityStore.Proofs.Compiled
import EntityStore.Proofs.Triples

/-!
# Mass assignment

A caller who is handed a whole object assigns of it only what the schema allows: attributes that are
fillable and not guarded, and the keys of the entities that an entity belongs to. Every operation that
assigns in bulk filters before it writes, so objects that agree on these fields cannot be told apart
(`Assignment.perform_congr`). No two columns of a compiled entity have one name, so whatever a key is
called, no column that the traits bring along is among these fields (`Schema.Compiles.system_unfillable`),
and such a column of a row that is there stays as it was (`Assignment.protects_perform`). Main result:
`Assignment.confined`.
-/

namespace EntityStore

namespace Schema

/-- The columns that no caller declares: the primary key and those that the traits add. -/
def systemColumns (s : Schema) : List Column :=
  ⟨s.primaryKeyName, .integer, false, .primaryKey⟩ ::
    columnIf s.traits.uuid "uuid" .uuid .uuid ++
    columnIf s.traits.softDeletes "deleted_at" .timestamp .softDelete ++
    columnIf s.traits.timestamps "created_at" .timestamp .timestamp ++
    columnIf s.traits.timestamps "updated_at" .timestamp .timestamp ++
    columnIf s.traits.billable "stripe_id" .string .billing ++
    columnIf s.traits.usesTwoFactor "two_factor_secret" .string .twoFactor ++
    columnIf s.traits.usesPasskey "public_key" .text .passkey

def systemNames (s : Schema) : List String :=
  s.systemColumns.map (·.name)

theorem source_of_mem_columnIf {on : Bool} {name : String} {type : FieldType}
    {source : ColumnSource} {column : Column} (mem : column ∈ columnIf on name type source) :
    column.source = source := by
  unfold columnIf at mem
  split at mem
  · rw [List.mem_singleton.1 mem]
  · cases mem

theorem mem_allColumns_of_system {s : Schema} {column : Column} (mem : column ∈ s.systemColumns) :
    column ∈ s.allColumns ∧ column.source.isSystem = true := by
  simp only [systemColumns, List.cons_append, List.mem_cons, List.mem_append] at mem
  constructor
  · simp only [allColumns, List.cons_append, List.mem_cons, List.mem_append]
    tauto
  · rcases mem with rfl | ((((((mem | mem) | mem) | mem) | mem) | mem) | mem)
    · rfl
    all_goals
      rw [source_of_mem_columnIf mem]
      rfl

/-- No system column is among what may be assigned in bulk, whatever names the schema combines: the
field would be a second column of its name. -/
theorem Compiles.system_unfillable {s : Schema} {resolver : RelationResolver} {m : Model}
    (compiles : s.Compiles resolver m) {name : String} (system : name ∈ s.systemNames) :
    name ∉ s.fillable := by
  intro fillable
  obtain ⟨all, apart⟩ := columns_eq_ok compiles.columns
  rw [all] at apart
  obtain ⟨column, mem, rfl⟩ := List.mem_map.1 system
  obtain ⟨there, isSystem⟩ := mem_allColumns_of_system mem
  obtain ⟨other, otherThere, named, assignable⟩ := fillable_column fillable
  obtain rfl : other = column := List.inj_on_of_nodup_map apart otherThere there named
  rw [isSystem] at assignable
  cases assignable

/-- The rows agree on every system column, but for the stamp of the last change. -/
def SameSystem (s : Schema) (row row' : Row) : Prop :=
  ∀ name ∈ s.systemNames, (s.traits.timestamps = true → name ≠ "updated_at") →
    row'.get? name = row.get? name

/-- The values set no system column but the stamp of the change. -/
def SparesSystem (s : Schema) (values : Row) : Prop :=
  ∀ name ∈ s.systemNames, (s.traits.timestamps = true → name ≠ "updated_at") →
    values.get? name = none

/-- No other table has changed, and in the table of the entity the rows that were there stand in
front, with their system columns. -/
structure Protects (s : Schema) (before after : Store) : Prop where
  others : ∀ table, table ≠ s.tableName → after.rows table = before.rows table
  kept : ∃ old new, after.rows s.tableName = old ++ new ∧
    List.Forall₂ s.SameSystem (before.rows s.tableName) old

variable {s : Schema} {before : Store}

theorem Protects.refl (store : Store) : s.Protects store store where
  others _ _ := rfl
  kept := ⟨store.rows s.tableName, [], (List.append_nil _).symm,
    List.forall₂_same.2 fun _ _ _ _ _ => rfl⟩

theorem protects_insert (statement : Insert) (own : statement.table = s.tableName) :
    (Write.insert statement).Maintains (s.Protects before) := by
  have preserves : ∀ rows, (Write.insert { statement with rows }).Preserves (s.Protects before) := by
    intro rows store changed answer protects ran
    obtain ⟨old, new, there, same⟩ := protects.kept
    constructor
    · intro table different
      have elsewhere : table ≠ (Write.insert { statement with rows }).target := by
        rw [← own] at different
        exact different
      rw [(Store.write_frame ran elsewhere).1]
      exact protects.others table different
    · obtain ⟨assigned, last, -, -, -, rfl⟩ := Store.write_insert ran
      refine ⟨old, new ++ assigned.map (·.2), ?_, same⟩
      have appended := Store.rows_appended_self store statement.table assigned last
      rw [own, there, List.append_assoc] at appended
      exact own ▸ appended
  refine ⟨preserves statement.rows, ?_⟩
  intro shared after prepared drew
  obtain ⟨assigned, last, -, rfl, -⟩ := Engine.prepare_insert drew
  exact preserves _

theorem protects_update {statement : Update} (own : statement.table = s.tableName)
    (spares : s.SparesSystem statement.values) :
    (Write.update statement).Maintains (s.Protects before) := by
  have preserves : (Write.update statement).Preserves (s.Protects before) := by
    intro store changed answer protects ran
    obtain ⟨old, new, there, same⟩ := protects.kept
    have set : ∀ row, s.SameSystem row (if store.selects statement.table statement.conditions row
        then row.merge statement.values else row) := by
      intro row name system unstamped
      split
      · rw [Row.get?_merge, spares name system unstamped, Option.none_or]
      · rfl
    constructor
    · intro table different
      have elsewhere : table ≠ (Write.update statement).target := by
        rw [← own] at different
        exact different
      rw [(Store.write_frame ran elsewhere).1]
      exact protects.others table different
    · rw [Store.write_update ran, ← own]
      unfold Store.update
      rw [Store.rows_setRows_self, own, there, List.map_append]
      refine ⟨_, _, rfl, ?_⟩
      rw [List.forall₂_map_right_iff]
      refine same.imp fun row row' agree name system unstamped => ?_
      rw [← own, set row' name system unstamped]
      exact agree name system unstamped
  refine ⟨preserves, ?_⟩
  intro shared after prepared drew
  cases drew
  exact preserves

variable {resolver : RelationResolver} {m : Model}

/-- Insertions of any rows, and updates that spare the system columns, protect what was there. -/
theorem Compiles.guards (compiles : s.Compiles resolver m) (before : Store) :
    m.Guards (s.Protects before) (fun _ => True) s.SparesSystem where
  identifier _ _ _ _ := trivial
  creation _ _ _ _ := trivial
  change _ _ _ _ := trivial
  stamp stamps values v spares name system unstamped := by
    rw [compiles.traits] at stamps
    rw [Row.get?_insert_of_ne values v (unstamped stamps)]
    exact spares name system unstamped
  inserts _ _ := protects_insert _ compiles.table
  updates _ _ spares := protects_update compiles.table spares

theorem sparesSystem_filterFillable (compiled : s.compile resolver = .ok m) (values : Row) :
    s.SparesSystem (m.filterFillable values) := by
  intro name system _
  have unfillable := (compile_eq_ok compiled).system_unfillable system
  rw [← (lists_of_compile compiled).fillable] at unfillable
  unfold Model.filterFillable
  rw [Row.get?_filter]
  have dropped : m.isFillable name = false := by simp [Model.isFillable, unfillable]
  cases values.get? name <;> simp [Option.filter, dropped]

end Schema

namespace Instance

/-- Filling an instance in which nothing was set since it was read changes only what may be assigned
in bulk. -/
theorem get?_dirty_fill {i : Instance} (clean : i.isDirty = false) {values : Row} {name : String}
    (unset : (i.model.filterFillable values).get? name = none) :
    (i.fill values).dirty.get? name = none := by
  have clean : i.dirty.fields = [] := by
    unfold isDirty Row.isEmpty at clean
    simpa using clean
  have before : i.dirty.get? name = none := by
    unfold Row.get?
    rw [clean]
    rfl
  unfold dirty difference at before ⊢
  rw [Row.get?_filter] at before ⊢
  have kept : (i.fill values).attributes.get? name = i.attributes.get? name := by
    unfold fill
    rw [Row.get?_merge, unset, Option.none_or]
  rw [kept]
  exact before

end Instance

/-! ### Assignments -/

/-- What can be done with the values of a caller who may not be trusted. -/
inductive Assignment where
  | create (values : Row)
  | createMany (rows : List Row)
  | saveNew (values : Row)
  | update (i : Instance) (values : Row)
  | fillAndSave (i : Instance) (values : Row)
  | updateAll (q : Query) (values : Row)

/-- The answer of an assignment: an instance, several, or the number of changed rows. -/
inductive Assigned where
  | one (i : Instance)
  | many (items : List Instance)
  | count (n : Nat)

namespace Assignment

variable {m : Model}

/-- The instance or the query of the assignment is one of the entity; an instance that is filled was
loaded, and nothing was set in it since. -/
def On (m : Model) : Assignment → Prop
  | .update i _ => i.model = m
  | .fillAndSave i _ => i.model = m ∧ i.stored = true ∧ i.isDirty = false
  | .updateAll q _ => q.model = m
  | _ => True

def perform (m : Model) : Assignment → Task Assigned
  | .create values => return .one (← m.create values)
  | .createMany rows => return .many (← m.createMany rows)
  | .saveNew values => return .one (← (m.newInstance values).save)
  | .update i values => return .one (← i.update values)
  | .fillAndSave i values => return .one (← (i.fill values).save)
  | .updateAll q values => return .count (← q.update values)

end Assignment

namespace Model

variable {m : Model}

/-- The rows agree on every field that is fillable and not guarded. -/
def SameFillable (m : Model) (a b : Row) : Prop :=
  ∀ name, m.isFillable name = true → a.get? name = b.get? name

theorem SameFillable.filterFillable {a b : Row} (same : m.SameFillable a b) :
    m.filterFillable a = m.filterFillable b := by
  apply Row.ext_get?
  intro name
  unfold Model.filterFillable
  rw [Row.get?_filter, Row.get?_filter]
  cases fillable : m.isFillable name with
  | true => rw [same name fillable]
  | false => cases a.get? name <;> cases b.get? name <;> simp [Option.filter]

end Model

namespace Assignment

variable {m : Model}

/-- The same is done, with values that agree on the fields that may be assigned in bulk. -/
inductive Alike (m : Model) : Assignment → Assignment → Prop
  | create {a b : Row} : m.SameFillable a b → Alike m (.create a) (.create b)
  | createMany {as bs : List Row} :
    List.Forall₂ m.SameFillable as bs → Alike m (.createMany as) (.createMany bs)
  | saveNew {a b : Row} : m.SameFillable a b → Alike m (.saveNew a) (.saveNew b)
  | update {i : Instance} {a b : Row} : m.SameFillable a b → Alike m (.update i a) (.update i b)
  | fillAndSave {i : Instance} {a b : Row} :
    m.SameFillable a b → Alike m (.fillAndSave i a) (.fillAndSave i b)
  | updateAll {q : Query} {a b : Row} :
    m.SameFillable a b → Alike m (.updateAll q a) (.updateAll q b)

/-- Every assignment filters the values before it does anything with them. -/
theorem perform_congr {x y : Assignment} (alike : Alike m x y) (own : x.On m) :
    x.perform m = y.perform m := by
  have filled : ∀ {a b : Row} {i : Instance}, m.SameFillable a b → i.model = m →
      i.fill a = i.fill b := by
    intro a b i same own
    unfold Instance.fill
    rw [own, same.filterFillable]
  cases alike with
  | @create a b same =>
    have created : m.create a = m.create b := by
      unfold Model.create
      rw [same.filterFillable]
    simp only [perform, created]
  | @createMany as bs same =>
    have rows : as.map m.filterFillable = bs.map m.filterFillable := by
      induction same with
      | nil => rfl
      | cons first _ ih => rw [List.map_cons, List.map_cons, first.filterFillable, ih trivial]
    simp only [perform, Model.createMany, rows]
  | @saveNew a b same =>
    have made : m.newInstance a = m.newInstance b := filled same rfl
    simp only [perform, made]
  | @update i a b same =>
    have own : i.model = m := own
    simp only [perform, Instance.update, own, same.filterFillable]
  | @fillAndSave i a b same => simp only [perform, filled same own.1]
  | @updateAll q a b same =>
    have own : q.model = m := own
    simp only [perform, Query.update, own, same.filterFillable]

variable {s : Schema} {resolver : RelationResolver}

/-- No assignment touches a system column of a row that was there, whether it fails or not. -/
theorem protects_perform (compiled : s.compile resolver = .ok m) (before : Store) (db : Database)
    {x : Assignment} (own : x.On m) :
    (x.perform m).Keeps db (s.Protects before) (fun _ => True) := by
  have guards := (Schema.compile_eq_ok compiled).guards before
  have spares := Schema.sparesSystem_filterFillable compiled
  have inserted : ∀ rows, (m.insertRows rows true).Keeps db (s.Protects before) (fun _ => True) :=
    Model.keeps_insertRows guards fun _ _ => trivial
  cases x with
  | create values =>
    exact .bind (Model.keeps_insertOne guards (fun _ _ => trivial) _) fun _ _ => .pure trivial
  | createMany rows => exact .bind (inserted _) fun _ _ => .pure trivial
  | saveNew values =>
    refine .bind (Instance.keeps_save guards rfl (fun _ _ _ => trivial) ?_) fun _ _ => .pure trivial
    exact fun stored => nomatch stored
  | update i values =>
    have own : i.model = m := own
    refine .bind (Instance.keeps_writeValues guards own fun _ => ?_) fun _ _ => .pure trivial
    rw [own]
    exact spares values
  | fillAndSave i values =>
    obtain ⟨own, stored, clean⟩ := own
    refine .bind (Instance.keeps_save guards own (fun new => ?_) fun _ _ => ?_) fun _ _ => .pure trivial
    · exact absurd (stored.symm.trans new) (by decide)
    · intro name system unstamped
      unfold Model.filterColumns
      rw [Row.get?_filter, Instance.get?_dirty_fill clean]
      · rfl
      · rw [own]
        exact spares values name system unstamped
  | updateAll q values =>
    have own : q.model = m := own
    refine .bind (Query.keeps_setAll guards own fun _ => ?_) fun _ _ => .pure trivial
    rw [own]
    exact spares values

/-- **Mass assignment cannot reach protected columns.** No system column of a compiled entity is
fillable; assignments of values that agree on what is fillable have the same answer and lead to the
same session; and after an assignment, also one that fails, every row that was there has its system
columns as before, but for the stamp of the change. -/
theorem confined (compiled : s.compile resolver = .ok m) :
    (∀ name ∈ s.systemNames, name ∉ m.fillable) ∧
      (∀ x y : Assignment, Alike m x y → x.On m → ∀ (db : Database) (session : Session),
        x.perform m db session = y.perform m db session) ∧
      ∀ x : Assignment, x.On m → ∀ (db : Database) (session : Session) (store : Store),
        session.engine.storeOf db.handle = .ok store →
        ∃ final, (x.perform m db session).2.engine.storeOf db.handle = .ok final ∧
          s.Protects store final := by
  refine ⟨?_, ?_, ?_⟩
  · intro name system
    rw [(Schema.lists_of_compile compiled).fillable]
    exact (Schema.compile_eq_ok compiled).system_unfillable system
  · intro x y alike own db session
    rw [perform_congr alike own]
  · intro x own db session store opened
    have start : session.Holds db.handle (s.Protects store) := ⟨store, opened, .refl store⟩
    exact (protects_perform compiled store db own session start).1

/-- Posts of authors; the status is fillable but guarded, and there is a trash. -/
def posts : Schema :=
  { name := "Post", table := some "posts"
    attributes := [("title", { fillable := true }), ("status", { fillable := true, guarded := true })]
    relations := { belongsTo := [{ entity := "User", foreignKey := some "author_id" }] }
    traits := { softDeletes := true } }

/-- The entity of the posts. -/
def post : Model :=
  match posts.compile ⟨[{ name := "User", table := some "users" }], 10⟩ with
  | .ok m => m
  | .error _ => .bare "Post" "posts" [] {}

/-- What the author of a post may say of it. -/
def honest : Row :=
  .ofFields [("author_id", .int 3), ("title", .text "Tea")]

/-- The same, with a key, a status and stamps that an author may not choose. -/
def forged : Row :=
  .ofFields [("author_id", .int 3), ("created_at", .text "1970"), ("deleted_at", .text "1970"),
    ("id", .int 1), ("status", .text "approved"), ("title", .text "Tea")]

/-- A forged post is created as the honest one is, and spares the posts that are there. -/
theorem confined_posts :
    posts.compile ⟨[{ name := "User", table := some "users" }], 10⟩ = .ok post ∧
      "author_id" ∈ post.fillable ∧ "id" ∉ post.fillable ∧ "deleted_at" ∉ post.fillable ∧
      ∀ (db : Database) (session : Session),
        (create forged).perform post db session = (create honest).perform post db session ∧
        ∀ store, session.engine.storeOf db.handle = .ok store →
          ∃ final, ((create forged).perform post db session).2.engine.storeOf db.handle = .ok final ∧
            posts.Protects store final := by
  have compiled : posts.compile ⟨[{ name := "User", table := some "users" }], 10⟩ = .ok post := by
    rfl
  have listed : post.fillable = ["title", "status", "author_id"] := by rfl
  have alike : Alike post (create forged) (create honest) := by
    apply Alike.create
    intro name fillable
    unfold Model.isFillable at fillable
    rw [listed] at fillable
    have among : name = "title" ∨ name = "status" ∨ name = "author_id" := by
      have both := Bool.and_eq_true_iff.1 fillable
      simpa using both.1
    rcases among with rfl | rfl | rfl
    · rfl
    · exact absurd fillable (by decide)
    · rfl
  obtain ⟨unfillable, same, spared⟩ := confined compiled
  refine ⟨compiled, by rw [listed]; decide, unfillable "id" (by decide),
    unfillable "deleted_at" (by decide), ?_⟩
  intro db session
  exact ⟨same _ _ alike trivial db session, spared (create forged) trivial db session⟩

end Assignment

end EntityStore
