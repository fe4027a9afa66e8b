import EntityStore.Proofs.Creations
import EntityStore.Proofs.FindByKey
import EntityStore.Proofs.LooseEquality

/-!
# Finding a row or making it

The first row that meets a search is answered, and if there is none a new row is made of what was
sought and of other values (`Model.foundOrCreated`). The search reads the columns of the rows as
queries do (`Model.meets`), while a new row keeps only what may be assigned in bulk. Main result:
`Model.repeats_firstOrCreate`; two calls in a row come to one exactly when what the first one answers
meets the search. Where a column that is sought is guarded or is given another value they do not
(`Model.Repeats.not_once_named`).
-/

namespace EntityStore

namespace Model

variable {m : Model} {db : Database} {s : Session} {rows : List Row} {sought : Row}

/-! ### What a search matches -/

/-- Queries read the value in the column of the row, or nothing where the value is null. -/
def displays (m : Model) (row : Row) (name : String) (v : Value) : Bool :=
  if v.isNull then ((Scope.ofRow m.table row).lookup name).isNull
  else ((Scope.ofRow m.table row).lookup name).looseEq v

/-- The row meets the search: it displays what is sought, and it is not in the trash. -/
def meets (m : Model) (sought row : Row) : Bool :=
  sought.fields.all (fun field => m.displays row field.1 field.2) &&
    (!m.traits.softDeletes || m.displays row (qualified m.table "deleted_at") .null)

/-- The condition by which a search asks for a value. -/
def asks (name : String) (v : Value) : Condition :=
  if v.isNull then .isNull name else .compare name .eq v

theorem satisfies_asks (m : Model) (store : Store) (row : Row) (name : String) (v : Value) :
    store.satisfies (.ofRow m.table row) (asks name v) = m.displays row name v := by
  unfold asks displays
  split
  · rfl
  · rw [Store.satisfies, Operator.holds_eq]

theorem filter_asks (q : Query) (name : String) (v : Value) :
    (if v.isNull then q.filter (.isNull name) else q.whereEq name v) = q.filter (asks name v) := by
  unfold asks Query.whereEq
  split <;> rfl

/-- A search asks for columns of the entity, one after the other. -/
theorem satisfies_having {fields : List (String × Value)} {q q' : Query}
    (built : fields.foldlM (fun (q : Query) (name, value) =>
      if !m.hasColumn name then .error (.unknownAttribute m.name name)
      else .ok (if value.isNull then q.filter (.isNull name) else q.whereEq name value)) q =
        (.ok q' : Except Error Query))
    (plain : q.conditions.hasOr = false) :
    (∀ field ∈ fields, m.hasColumn field.1 = true) ∧ q' = { q with conditions := q'.conditions } ∧
      ∀ (store : Store) (row : Row),
        store.satisfiesTree (.ofRow m.table row) q'.conditions =
          (store.satisfiesTree (.ofRow m.table row) q.conditions &&
            fields.all fun field => m.displays row field.1 field.2) := by
  induction fields generalizing q with
  | nil =>
    cases built
    refine ⟨List.forall_mem_nil _, rfl, fun store row => ?_⟩
    rw [List.all_nil, Bool.and_true]
  | cons field rest ih =>
    obtain ⟨name, v⟩ := field
    rw [List.foldlM_cons] at built
    obtain ⟨next, narrowed, later⟩ := Except.bind_eq_ok.1 built
    dsimp only at narrowed
    rw [filter_asks] at narrowed
    split at narrowed
    · cases narrowed
    next known =>
    rw [Bool.not_eq_true', Bool.not_eq_false] at known
    cases narrowed
    have still : (q.filter (asks name v)).conditions.hasOr = false := by
      change ConditionTree.hasOr (q.conditions ++ [_]) = false
      unfold ConditionTree.hasOr at plain ⊢
      rw [List.any_append, plain]
      rfl
    obtain ⟨others, unchanged, holds⟩ := ih later still
    refine ⟨List.forall_mem_cons.2 ⟨known, others⟩, unchanged, fun store row => ?_⟩
    have both : store.satisfiesTree (.ofRow m.table row) (q.filter (asks name v)).conditions =
        (store.satisfiesTree (.ofRow m.table row) q.conditions && m.displays row name v) := by
      rw [← m.satisfies_asks]
      exact store.satisfiesTree_also _ plain _
    rw [holds, both, List.all_cons, Bool.and_assoc]

/-- A search selects the rows that meet it. -/
theorem selects_having {q : Query} (built : m.having sought = .ok q) :
    (∀ field ∈ sought.fields, m.hasColumn field.1 = true) ∧
      q = { m.query with conditions := q.conditions } ∧
      ∀ store : Store, store.selects m.table q.scopedConditions = m.meets sought := by
  obtain ⟨known, unchanged, holds⟩ := satisfies_having built rfl
  refine ⟨known, unchanged, fun store => funext fun row => ?_⟩
  have own : q.model = m := by rw [unchanged]; rfl
  have scope : q.scope = .untrashed := by rw [unchanged]; rfl
  unfold Store.selects meets
  rw [q.satisfiesTree_scopedConditions, holds]
  congr 1
  unfold Query.sees Query.scopedConditions
  dsimp only
  rw [own, scope, deletedAt_qualified]
  cases m.traits.softDeletes with
  | false =>
    rw [Store.satisfiesTree.eq_def]
    rfl
  | true =>
    rw [if_neg (by decide), Store.satisfiesTree_enclosed_also, Store.satisfiesTree]
    rfl

/-- A search answers the first row that meets it, and changes nothing. -/
theorem run_search {q : Query} (built : m.having sought = .ok q)
    (seen : s.engine.tableOf db.handle m.table = .ok rows) :
    ∃ s', s'.engine = s.engine ∧
      q.first db s = (.ok ((rows.find? (m.meets sought)).map (Instance.ofRow m)), s') := by
  obtain ⟨-, unchanged, selects⟩ := selects_having built
  let one : Query := { q with limit := some 1 }
  have shape : q.model = m ∧ one.loads = [] ∧ q.statement.Whole ∧ q.statement.orderBy = [] ∧
      q.statement.joins = [] := by
    unfold one
    rw [unchanged]
    exact ⟨rfl, rfl, ⟨rfl, rfl, rfl, rfl, rfl⟩, rfl, rfl⟩
  obtain ⟨rfl, unloaded, whole, unordered, unjoined⟩ := shape
  obtain ⟨store, opened, rfl⟩ := Engine.tableOf_eq_ok.1 seen
  obtain ⟨s', still, fetched⟩ := Query.run_fetch one opened
  have head : (store.select one.statement).head? =
      (store.rows q.model.table).find? (q.model.meets sought) := by
    rw [← selects store]
    exact store.head?_select whole unordered unjoined
  have got : one.get db s = (.ok ((store.select one.statement).map (Instance.ofRow q.model)), s') := by
    unfold Query.get
    rw [Work.run_bind, fetched]
    dsimp only
    rw [unloaded]
    split <;> rfl
  refine ⟨s', still, ?_⟩
  unfold Query.first
  rw [Work.run_bind, got, ← head, ← List.head?_map]
  rfl

/-! ### One more row -/

/-- A row is added to what the handle sees of the table, completed and under a key of its own, and
nothing that any handle sees changes besides. The row that is answered for it was there already, or
it is the new one; it is the new one if that shows queries its key. -/
structure RowAdded (m : Model) (row : Row) (db : Database) (s s' : Session) (new answered : Row) :
    Prop where
  key : ∃ key, new = (m.drafted s row).insert m.primaryKey (.int key) ∧
    Store.keyOf? m.primaryKey new = some key ∧ (m.reads key new = true → answered = new)
  grown : s.engine.Grown s'.engine db.handle m.table [new]
  mem : ∀ rows, s.engine.tableOf db.handle m.table = .ok rows → answered ∈ rows ++ [new]

/-- A key takes the last of the fetched rows that carries it. -/
theorem rowsOfKeys_one {fetched found : List Row} {key : Int}
    (taken : m.rowsOfKeys fetched [] [key] = .ok found) :
    ∃ row, found = [row] ∧
      (fetched.reverse.find? fun row => Store.keyOf? m.primaryKey row = some key) = some row := by
  unfold rowsOfKeys at taken
  rw [List.contains_nil, if_neg Bool.false_ne_true] at taken
  dsimp only at taken
  split at taken
  · cases taken
  · next row first =>
    cases taken
    exact ⟨row, rfl, first⟩

section

variable {row : Row} {found : List Instance} {s' : Session}
  (seen : s.engine.tableOf db.handle m.table = .ok rows)

include seen

/-- The row that is read again for a new one was there already, or it is the new one, which stands
behind all others. -/
theorem rowAdded_collecting {key : Int} {new : Row} {between : Session}
    (placed : new = (m.drafted s row).insert m.primaryKey (.int key))
    (carried : Store.keyOf? m.primaryKey new = some key)
    (grown : s.engine.Grown between.engine db.handle m.table [new])
    (ran : m.collecting [key] db between = (.ok found, s')) :
    ∃ answered, found = [Instance.ofRow m answered] ∧ m.RowAdded row db s s' new answered := by
  have after : between.engine.tableOf db.handle m.table = .ok (rows ++ [new]) := by
    rw [grown.rows, seen]
    rfl
  unfold collecting at ran
  obtain ⟨fetched, read, selected, ran⟩ := Work.bind_eq_ok.1 ran
  obtain ⟨read', still, -, selects⟩ := run_select_keys after [key]
  cases selects.symm.trans selected
  obtain ⟨stored, taken, ran⟩ := Work.ofExcept_bind_eq_ok.1 ran
  obtain ⟨answered, rfl, last⟩ := rowsOfKeys_one taken
  obtain ⟨_, _, announced, ran⟩ := Work.bind_eq_ok.1 ran
  cases (run_announceAll m [answered] db read).symm.trans announced
  cases ran
  refine ⟨answered, rfl, ⟨key, placed, carried, fun shown => ?_⟩, ?_, ?_⟩
  · rw [List.filter_append, List.filter_singleton, List.any_cons, List.any_nil, Bool.or_false,
      shown, Bool.cond_true, List.reverse_append, List.reverse_singleton,
      List.singleton_append] at last
    exact Option.some.inj (last.symm.trans (List.find?_cons_of_pos (decide_eq_true carried)))
  · dsimp only
    rw [still]
    exact grown
  · intro others same
    cases seen.symm.trans same
    exact (List.mem_filter.1 (List.mem_reverse.1 (List.mem_of_find?_eq_some last))).1

/-- An insertion of one row that ends with an answer has added a row. -/
theorem rowAdded {validated : Bool} (ran : m.insertRows [row] validated db s = (.ok found, s')) :
    ∃ new answered, found = [Instance.ofRow m answered] ∧ m.RowAdded row db s s' new answered := by
  unfold insertRows at ran
  rw [List.isEmpty_cons, if_neg Bool.false_ne_true] at ran
  obtain ⟨completed, s₁, prepared, ran⟩ := Work.bind_eq_ok.1 ran
  obtain ⟨s₁', still, -, ⟨-, e, failed⟩ | ⟨-, drafted⟩⟩ := @run_prepareRows m db s validated [row]
  · cases failed.symm.trans prepared
  cases drafted.symm.trans prepared
  let statement : Insert :=
    { table := m.table, rows := [m.drafted s row], returning := m.primaryKey }
  change (Task.insert statement >>= fun keys => m.collecting keys) db s₁ = _ at ran
  obtain ⟨keys, s₂, inserted, ran⟩ := Work.bind_eq_ok.1 ran
  obtain ⟨keyed, rfl, places, grown⟩ := Task.grown_insert inserted
  obtain ⟨⟨key, new⟩, rfl⟩ := List.length_eq_one_iff.1 places.length
  rw [still] at grown
  have placed : [new] = [(m.drafted s row).insert m.primaryKey (.int key)] := places.rows
  obtain ⟨answered, rfl, added⟩ := rowAdded_collecting seen (List.singleton_inj.1 placed)
    (places.carries _ List.mem_cons_self) grown ran
  exact ⟨new, answered, rfl, added⟩

end

/-! ### How a call ends -/

/-- A call that answers has found the first row that meets the search and changed nothing, or it has
found none and added a row of the search and the other values. -/
inductive FoundOrCreated (m : Model) (sought : Row) (values : Value) (db : Database) (s s' : Session)
    (rows : List Row) : Instance → Prop where
  | found {row : Row} (first : rows.find? (m.meets sought) = some row)
    (still : s'.engine = s.engine) : FoundOrCreated m sought values db s s' rows (.ofRow m row)
  | created {given new answered : Row} {between : Session}
    (known : ∀ field ∈ sought.fields, m.hasColumn field.1 = true)
    (missed : rows.find? (m.meets sought) = none) (object : Row.ofValue values = .ok given)
    (still : between.engine = s.engine)
    (added : m.RowAdded (m.filterFillable (sought.merge given)) db between s' new answered) :
    FoundOrCreated m sought values db s s' rows (.ofRow m answered)

/-- Where a query answers, its handle is open. -/
theorem tableOf_of_first {q : Query} {found : Option Instance} {s' : Session}
    (ran : q.first db s = (.ok found, s')) (table : String) :
    ∃ rows, s.engine.tableOf db.handle table = .ok rows := by
  unfold Query.first at ran
  obtain ⟨_, _, got, -⟩ := Work.bind_eq_ok.1 ran
  unfold Query.get at got
  obtain ⟨_, _, fetched, -⟩ := Work.bind_eq_ok.1 got
  unfold Query.fetch at fetched
  obtain ⟨selected, _, read, -⟩ := Work.bind_eq_ok.1 fetched
  rw [Task.run_select, Engine.select_eq] at read
  cases opened : s.engine.storeOf db.handle with
  | error e =>
    rw [opened] at read
    cases read
  | ok store => exact ⟨store.rows table, Engine.tableOf_eq_ok.2 ⟨store, opened, rfl⟩⟩

theorem foundOrCreated {values : Value} {i : Instance} {s' : Session}
    (ran : m.firstOrCreate sought values db s = (.ok i, s')) :
    ∃ rows, s.engine.tableOf db.handle m.table = .ok rows ∧
      m.FoundOrCreated sought values db s s' rows i := by
  unfold firstOrCreate at ran
  obtain ⟨q, built, ran⟩ := Work.ofExcept_bind_eq_ok.1 ran
  obtain ⟨first, between, searched, ran⟩ := Work.bind_eq_ok.1 ran
  obtain ⟨rows, seen⟩ := tableOf_of_first searched m.table
  refine ⟨rows, seen, ?_⟩
  obtain ⟨_, still, finds⟩ := run_search built seen
  cases finds.symm.trans searched
  cases found : rows.find? (m.meets sought) with
  | some row =>
    rw [found] at ran
    cases ran
    exact .found found still
  | none =>
    rw [found] at ran
    dsimp only [Option.map_none] at ran
    obtain ⟨given, object, ran⟩ := Work.ofExcept_bind_eq_ok.1 ran
    unfold create insertOne at ran
    obtain ⟨made, _, inserted, ran⟩ := Work.bind_eq_ok.1 ran
    rw [← still] at seen
    obtain ⟨new, answered, rfl, added⟩ := rowAdded seen inserted
    cases ran
    exact .created (selects_having built).1 found object still added

/-! ### What a new row displays -/

/-- The columns that the key and the traits fill in a new row. -/
def supplied (m : Model) : List String :=
  m.primaryKey :: (if m.traits.uuid then ["uuid"] else []) ++
    if m.traits.timestamps then ["created_at", "updated_at"] else []

theorem mem_supplied {name : String} : name ∈ m.supplied ↔ name = m.primaryKey ∨
    m.traits.uuid = true ∧ name = "uuid" ∨
      m.traits.timestamps = true ∧ (name = "created_at" ∨ name = "updated_at") := by
  unfold supplied
  cases m.traits.uuid <;> cases m.traits.timestamps <;> simp

/-- In all other columns a new row has what it was given. -/
theorem get?_completed {name : String} (unsupplied : name ∉ m.supplied) (s : Session) (row : Row)
    (key : Value) : ((m.drafted s row).insert m.primaryKey key).get? name = row.get? name := by
  rw [mem_supplied, not_or, not_or] at unsupplied
  obtain ⟨unkeyed, unidentified, unstamped⟩ := unsupplied
  have identified : (if m.traits.uuid then row.insert "uuid" (.text (Uuid.ofNumber s.identifiers))
      else row).get? name = row.get? name := by
    split
    · next uuid => exact Row.get?_insert_of_ne _ _ fun same => unidentified ⟨uuid, same⟩
    · rfl
  rw [Row.get?_insert_of_ne _ _ unkeyed]
  unfold drafted
  dsimp only
  split
  · next stamps =>
    have created : name ≠ "created_at" := fun same => unstamped ⟨stamps, Or.inl same⟩
    have updated : name ≠ "updated_at" := fun same => unstamped ⟨stamps, Or.inr same⟩
    rw [Row.get?_stamped, if_neg created, if_neg updated, Option.or_none, Option.or_none,
      identified]
  · exact identified

/-- So a new row that is made of what may be assigned in bulk has there what was given. -/
theorem get?_created {name : String} (unsupplied : name ∉ m.supplied) {s : Session} {row : Row}
    {key : Value} : ((m.drafted s (m.filterFillable row)).insert m.primaryKey key).get? name =
      (row.get? name).filter fun _ => m.isFillable name := by
  rw [get?_completed unsupplied, filterFillable, Row.get?_filter]

/-- A value that a row has under a name without a dot is displayed there. -/
theorem displays_value {row : Row} {name : String} {v : Value} (plain : '.' ∉ name.toList)
    (finite : v.isFinite = true) (own : row.value name = v) : m.displays row name v = true := by
  unfold displays
  rw [Scope.lookup_ofRow m.table row plain, own]
  split
  · next null => exact null
  · next present => exact Value.looseEq_self finite (Bool.eq_false_iff.2 present)

/-- A new row keeps what is sought: the column may be assigned in bulk and the other values leave it
as it is, or nothing is sought there and neither the caller nor a trait puts anything in. -/
def Retains (m : Model) (sought : Row) (values : Value) : Prop :=
  ∀ field ∈ sought.fields, field.2.isFinite = true ∧
    (m.isFillable field.1 = true ∧
        (∀ given, Row.ofValue values = .ok given → ∀ other ∈ given.get? field.1, other = field.2) ∨
      m.isFillable field.1 = false ∧ field.2 = .null ∧ field.1 ∉ m.supplied)

section

variable {schema : Schema} {resolver : RelationResolver}
  (compiled : schema.compile resolver = .ok m)

include compiled

/-- What may be assigned in bulk is declared so. -/
theorem mem_fillable {name : String} (fillable : m.isFillable name = true) :
    name ∈ schema.fillable := by
  rw [← (Schema.lists_of_compile compiled).fillable]
  unfold isFillable at fillable
  exact List.contains_iff_mem.1 (Bool.and_eq_true_iff.1 fillable).1

theorem isFillable_of_system {name : String} (system : name ∈ schema.systemNames) :
    m.isFillable name = false :=
  Bool.eq_false_iff.2 fun fillable =>
    (Schema.compile_eq_ok compiled).system_unfillable system (mem_fillable compiled fillable)

/-- What may be assigned in bulk is filled in by neither the key nor the traits. -/
theorem unsupplied_of_isFillable {name : String} (fillable : m.isFillable name = true) :
    name ∉ m.supplied := by
  have compiles := Schema.compile_eq_ok compiled
  intro supplied
  suffices system : name ∈ schema.systemNames by
    rw [isFillable_of_system compiled system] at fillable
    cases fillable
  rw [mem_supplied, compiles.primaryKey, compiles.traits] at supplied
  unfold Schema.systemNames Schema.systemColumns Schema.columnIf
  rcases supplied with rfl | ⟨uuid, rfl⟩ | ⟨stamps, rfl | rfl⟩
  · exact List.mem_cons_self
  · simp [uuid]
  · simp [stamps]
  · simp [stamps]

section

variable (undotted : ∀ column ∈ m.columns, '.' ∉ column.name.toList)

include undotted

theorem undotted_of_isFillable {name : String} (fillable : m.isFillable name = true) :
    '.' ∉ name.toList := by
  obtain ⟨column, mem, rfl, -⟩ := Schema.fillable_column (mem_fillable compiled fillable)
  rw [← (Schema.columns_eq_ok (Schema.compile_eq_ok compiled).columns).1] at mem
  exact undotted column mem

theorem undotted_primaryKey : '.' ∉ m.primaryKey.toList := by
  have compiles := Schema.compile_eq_ok compiled
  have first : ⟨schema.primaryKeyName, .integer, false, .primaryKey⟩ ∈ m.columns := by
    rw [(Schema.columns_eq_ok compiles.columns).1]
    exact List.mem_cons_self
  rw [compiles.primaryKey]
  exact undotted _ first

theorem undotted_of_supplied {name : String} (supplied : name ∈ m.supplied) :
    '.' ∉ name.toList := by
  rcases mem_supplied.1 supplied with rfl | ⟨-, rfl⟩ | ⟨-, rfl | rfl⟩
  · exact undotted_primaryKey compiled undotted
  all_goals decide

variable {row : Row} {key : Value}

/-- A new row is not in the trash, as queries read it. -/
theorem untrashed_created (soft : m.traits.softDeletes = true) (s : Session) :
    m.displays ((m.drafted s (m.filterFillable row)).insert m.primaryKey key)
      (qualified m.table "deleted_at") .null = true := by
  have compiles := Schema.compile_eq_ok compiled
  have system : "deleted_at" ∈ schema.systemNames := by
    rw [compiles.traits] at soft
    simp [Schema.systemNames, Schema.systemColumns, Schema.columnIf, soft]
  have unsupplied : "deleted_at" ∉ m.supplied := by
    have listed : "deleted_at" ∈ schema.allColumns.tail.map (·.name) := by
      rw [compiles.traits] at soft
      simp [Schema.allColumns, Schema.columnIf, soft]
    intro supplied
    rcases mem_supplied.1 supplied with same | ⟨-, same⟩ | ⟨-, same | same⟩
    · exact compiles.key_ne listed same.symm
    all_goals exact absurd same (by decide)
  have empty {name : String} (unsupplied : name ∉ m.supplied) (unfillable : m.isFillable name = false) :
      ((m.drafted s (m.filterFillable row)).insert m.primaryKey key).get? name = none := by
    rw [get?_created unsupplied, unfillable]
    cases row.get? name <;> rfl
  have dotted := dot_mem_qualified m.table "deleted_at"
  have unhidden := Row.not_mem_keys (empty
    (fun supplied => undotted_of_supplied compiled undotted supplied dotted)
    (Bool.eq_false_iff.2 fun fillable => undotted_of_isFillable compiled undotted fillable dotted))
  change ((Scope.ofRow m.table _).lookup (qualified m.table "deleted_at")).isNull = true
  rw [Scope.lookup_qualified_of_unhidden unhidden,
    empty unsupplied (isFillable_of_system compiled system)]
  rfl

/-- A new row that keeps what is sought meets the search. -/
theorem meets_created (known : ∀ field ∈ sought.fields, m.hasColumn field.1 = true) {values : Value}
    {given : Row} (object : Row.ofValue values = .ok given) (retains : m.Retains sought values)
    (s : Session) :
    m.meets sought ((m.drafted s (m.filterFillable (sought.merge given))).insert m.primaryKey key) =
      true := by
  have plain {name : String} (column : m.hasColumn name = true) : '.' ∉ name.toList := by
    obtain ⟨column, mem, named⟩ := List.any_eq_true.1 column
    rw [← eq_of_beq named]
    exact undotted column mem
  unfold meets
  rw [Bool.and_eq_true]
  constructor
  · rw [List.all_eq_true]
    rintro ⟨name, v⟩ mem
    have own : sought.get? name = some v := sought.ascending.fieldOf?_of_mem mem
    obtain ⟨finite, ⟨fillable, left⟩ | ⟨unfillable, null, unsupplied⟩⟩ := retains _ mem
    · have unsupplied := unsupplied_of_isFillable compiled fillable
      refine displays_value (plain (known _ mem)) finite (Row.value_eq ?_)
      rw [get?_created unsupplied, fillable, Row.get?_merge, own]
      cases other : given.get? name with
      | none => rfl
      | some w =>
        rw [left given object w other]
        rfl
    · refine displays_value (plain (known _ mem)) finite ?_
      unfold Row.value
      rw [get?_created unsupplied, unfillable, null]
      cases (sought.merge given).get? name <;> rfl
  · cases soft : m.traits.softDeletes with
    | false => rfl
    | true => exact untrashed_created compiled undotted soft s

end

end

/-! ### Two calls in a row -/

/-- At most one row is added to the table of the entity as the handle sees it, and nothing that any
handle sees changes besides. -/
def AddsOne (m : Model) (db : Database) (s s' : Session) : Prop :=
  ∃ new : List Row, new.length ≤ 1 ∧ s.engine.Grown s'.engine db.handle m.table new

/-- The calls come to one: together they add at most one row, and both answer the same one. -/
def Once (m : Model) (db : Database) (s s' : Session) (i j : Instance) : Prop :=
  m.AddsOne db s s' ∧ j = i

/-- What two calls in a row come to that answer `i` and `j`. -/
structure Repeats (m : Model) (sought : Row) (values : Value) (db : Database)
    (s s' s'' : Session) (i j : Instance) : Prop where
  /-- Each of them adds at most one row. -/
  each : m.AddsOne db s s' ∧ m.AddsOne db s' s''
  /-- They come to one exactly when what the first one answers meets the search. -/
  once_iff : m.Once db s s'' i j ↔ m.meets sought i.attributes = true
  /-- So they do where a new row keeps what is sought. -/
  retained : (∀ column ∈ m.columns, '.' ∉ column.name.toList) → m.Retains sought values →
    m.Once db s s'' i j

theorem AddsOne.of_still {s' : Session} (still : s'.engine = s.engine) : m.AddsOne db s s' := by
  refine ⟨[], Nat.zero_le 1, ?_⟩
  rw [still]
  exact .refl _ _ _

variable {values : Value} {s' : Session} {i : Instance}

theorem FoundOrCreated.addsOne (ends : m.FoundOrCreated sought values db s s' rows i) :
    m.AddsOne db s s' := by
  cases ends with
  | found first still => exact .of_still still
  | @created given new answered between known missed object still added =>
    exact ⟨[new], Nat.le_refl 1, still ▸ added.grown⟩

/-- Where a new row keeps what is sought, what is found or made meets the search. -/
theorem FoundOrCreated.meets_of_retains {schema : Schema} {resolver : RelationResolver}
    (compiled : schema.compile resolver = .ok m)
    (undotted : ∀ column ∈ m.columns, '.' ∉ column.name.toList) (retains : m.Retains sought values)
    (ends : m.FoundOrCreated sought values db s s' rows i) :
    m.meets sought i.attributes = true := by
  cases ends with
  | found first still => exact List.find?_some first
  | @created given new answered between known missed object still added =>
    obtain ⟨key, made, carried, own⟩ := added.key
    have shows := reads_of_keyOf? (undotted_primaryKey compiled undotted) carried
    change m.meets sought answered = true
    rw [own shows, made]
    exact meets_created compiled undotted known object retains between

/-- Once a row is added, the search finds what it found before, or else the new row if that meets
it. -/
theorem find?_added {new : Row} (missed : rows.find? (m.meets sought) = none) :
    (rows ++ [new]).find? (m.meets sought) = if m.meets sought new then some new else none := by
  rw [List.find?_append, missed, Option.none_or, List.find?_singleton]

theorem RowAdded.seen {row new answered : Row} (added : m.RowAdded row db s s' new answered)
    (seen : s.engine.tableOf db.handle m.table = .ok rows) :
    s'.engine.tableOf db.handle m.table = .ok (rows ++ [new]) := by
  rw [added.grown.rows, seen]
  rfl

section

variable {s'' : Session} {j : Instance} (seen : s.engine.tableOf db.handle m.table = .ok rows)
  (first : m.FoundOrCreated sought values db s s' rows i) {rows' : List Row}
  (seenToo : s'.engine.tableOf db.handle m.table = .ok rows')
  (again : m.FoundOrCreated sought values db s' s'' rows' j)

include seen first seenToo again

/-- What meets the search is found again. -/
theorem once_of_meets (meets : m.meets sought i.attributes = true) : m.Once db s s'' i j := by
  cases first with
  | found first still =>
    rw [still, seen] at seenToo
    cases seenToo
    cases again with
    | found again stillToo =>
      cases first.symm.trans again
      exact ⟨.of_still (stillToo.trans still), rfl⟩
    | created known missed => cases first.symm.trans missed
  | @created given new answered between known missed object still added =>
    have before : between.engine.tableOf db.handle m.table = .ok rows := by rw [still, seen]
    change m.meets sought answered = true at meets
    -- The rows that were there do not meet the search, so what is answered is the new one.
    obtain rfl : answered = new := by
      rcases List.mem_append.1 (added.mem rows before) with old | new
      · exact absurd meets (List.find?_eq_none.1 missed answered old)
      · exact List.mem_singleton.1 new
    cases (added.seen before).symm.trans seenToo
    have next : (rows ++ [answered]).find? (m.meets sought) = some answered := by
      rw [find?_added missed, if_pos meets]
    cases again with
    | found again stillToo =>
      cases next.symm.trans again
      refine ⟨⟨[answered], Nat.le_refl 1, ?_⟩, rfl⟩
      rw [stillToo, ← still]
      exact added.grown
    | created known missed => cases next.symm.trans missed

/-- If both come to one, what was answered first meets the search. -/
theorem meets_of_once (once : m.Once db s s'' i j) : m.meets sought i.attributes = true := by
  cases first with
  | found first still => exact List.find?_some first
  | @created given new answered between known missed object still added =>
    have before : between.engine.tableOf db.handle m.table = .ok rows := by rw [still, seen]
    cases (added.seen before).symm.trans seenToo
    cases again with
    | @found row again stillToo =>
      have next := List.find?_some again
      have same : row = answered := congrArg Instance.attributes once.2
      rwa [same] at next
    | @created given' newer answered' between' known' missed' object' still' added' =>
      -- Then there would be two new rows.
      obtain ⟨all, few, grown⟩ := once.1
      rw [← still'] at seenToo
      have both := (added'.seen seenToo).symm.trans grown.rows
      rw [seen, List.append_assoc] at both
      have two := List.append_cancel_left (Except.ok.inj both)
      rw [← two] at few
      exact absurd few (Nat.not_succ_le_self 1)

end

/-- **First or create, twice.** Two calls in a row with the same search, on any handle in any state,
add at most one row each. They come to one, adding at most one row together and answering the same
row, exactly when the row that the first one answers meets the search; so they do where a new row
keeps what is sought. -/
theorem repeats_firstOrCreate {schema : Schema} {resolver : RelationResolver} {s'' : Session}
    {j : Instance} (compiled : schema.compile resolver = .ok m)
    (first : m.firstOrCreate sought values db s = (.ok i, s'))
    (again : m.firstOrCreate sought values db s' = (.ok j, s'')) :
    m.Repeats sought values db s s' s'' i j := by
  obtain ⟨rows, seen, ends⟩ := foundOrCreated first
  obtain ⟨rows', seenToo, endsToo⟩ := foundOrCreated again
  constructor
  · exact ⟨ends.addsOne, endsToo.addsOne⟩
  · exact ⟨meets_of_once seen ends seenToo endsToo, once_of_meets seen ends seenToo endsToo⟩
  · intro undotted retains
    exact once_of_meets seen ends seenToo endsToo (ends.meets_of_retains compiled undotted retains)

namespace Repeats

/-- Posts, whose titles and texts may be assigned in bulk and whose slugs may not. -/
def posts : Schema :=
  { name := "Post", table := some "posts"
    attributes := [("title", { fillable := true }), ("body", { fillable := true }), ("slug", {})]
    traits := { softDeletes := true } }

/-- The entity of the posts. -/
def post : Model :=
  match posts.compile ⟨[], 10⟩ with
  | .ok m => m
  | .error _ => .bare "Post" "posts" [] {}

/-- The session that runs on a post on tea in the trash. -/
def desk : Session :=
  { engine := { shared :=
      { tables := [("posts", [.ofFields
          [("deleted_at", .text "2024-01-01T00:00:00Z"), ("id", .int 1), ("title", .text "Tea")]])]
        sequences := [("posts", 1)] } }
    clock := ⟨0⟩ }

/-- The post on tea that has no slug, with a text if it is made. -/
def unnamed : Task Instance :=
  post.firstOrCreate (.ofFields [("slug", .null), ("title", .text "Tea")])
    (.object [("body", .text "Hot water over leaves")])

/-- The post under a slug, with a title if it is made. -/
def named : Task Instance :=
  post.firstOrCreate (.ofFields [("slug", .text "tea")]) (.object [("title", .text "Tea")])

/-- The post on tea is made once. -/
theorem repeats_unnamed : posts.compile ⟨[], 10⟩ = .ok post ∧ ∃ i j s' s'',
    unnamed { registry := {} } desk = (.ok i, s') ∧ unnamed { registry := {} } s' = (.ok j, s'') ∧
      post.Once { registry := {} } desk s'' i j := by
  have compiled : posts.compile ⟨[], 10⟩ = .ok post := by rfl
  have retains : post.Retains (.ofFields [("slug", .null), ("title", .text "Tea")])
      (.object [("body", .text "Hot water over leaves")]) := by
    refine List.forall_mem_cons.2 ⟨⟨rfl, Or.inr ?_⟩, List.forall_mem_singleton.2 ⟨rfl, Or.inl ?_⟩⟩
    · decide
    · refine ⟨by decide, ?_⟩
      rintro given ⟨⟩ other ⟨⟩
  obtain ⟨i, first⟩ := Work.eq_ok_of_isOk (show (unnamed { registry := {} } desk).1.isOk = true by
    decide +kernel)
  obtain ⟨j, again⟩ := Work.eq_ok_of_isOk (show (unnamed { registry := {} }
      (unnamed { registry := {} } desk).2).1.isOk = true by
    decide +kernel)
  exact ⟨compiled, i, j, _, _, first, again,
    (repeats_firstOrCreate compiled first again).retained (by decide) retains⟩

/-- The slug of the new post is dropped, so that the second call does not find it and makes another
one. -/
theorem not_once_named : posts.compile ⟨[], 10⟩ = .ok post ∧ ∃ i j s' s'',
    named { registry := {} } desk = (.ok i, s') ∧ named { registry := {} } s' = (.ok j, s'') ∧
      ¬post.Once { registry := {} } desk s'' i j := by
  obtain ⟨i, first⟩ := Work.eq_ok_of_isOk (show (named { registry := {} } desk).1.isOk = true by
    decide +kernel)
  obtain ⟨j, again⟩ := Work.eq_ok_of_isOk (show (named { registry := {} }
      (named { registry := {} } desk).2).1.isOk = true by
    decide +kernel)
  refine ⟨by rfl, i, j, _, _, first, again, ?_⟩
  rintro ⟨⟨new, few, grown⟩, -⟩
  have before : desk.engine.tableOf ({ registry := {} } : Database).handle post.table =
      .ok (desk.engine.shared.rows "posts") := rfl
  have three : (((named { registry := {} } (named { registry := {} } desk).2).2.engine.tableOf
      ({ registry := {} } : Database).handle post.table).toOption.getD []).length = 3 := by
    decide +kernel
  rw [grown.rows, before] at three
  change (desk.engine.shared.rows "posts" ++ new).length = 1 + 1 + 1 at three
  rw [List.length_append] at three
  have one : (desk.engine.shared.rows "posts").length = 1 := rfl
  omega

end Repeats

end Model

end EntityStore
