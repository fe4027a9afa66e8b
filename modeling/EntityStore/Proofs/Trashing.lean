import EntityStore.Proofs.Insertions
import EntityStore.Proofs.Records
import EntityStore.Proofs.RowUpdates
import EntityStore.Proofs.Shown
import EntityStore.Proofs.Trash

/-!
# Moving rows to the trash

A row goes to the trash by its key or with all rows that a query matches. Both are updates of the
time of deletion, and both leave alone what is in the trash: by key a live row is looked for first
(`Model.trashing_deleteRow`), and a query has the scope of the trash among its conditions
(`Model.moves_delete`). What they have in common is that rows stay with their keys and that only
live rows are given a time (`Model.Stays`).
-/

namespace EntityStore

/-- The time of the deletion of the row, null as long as it is not in the trash. -/
def Row.deletedAt (row : Row) : Value :=
  row.value "deleted_at"

theorem Row.isTrashed_eq (row : Row) : row.isTrashed = !row.deletedAt.isNull := rfl

theorem Row.isTrashed_insert (row : Row) (stamp : String) :
    (row.insert "deleted_at" (.text stamp)).isTrashed = true := by
  unfold isTrashed
  rw [get?_insert_self]
  rfl

/-- The row is left as it is, or it is live and goes to the trash. -/
def Row.Trashes (row row' : Row) : Prop :=
  row' = row ∨ row.isTrashed = false ∧ ∃ stamp : String, row' = row.insert "deleted_at" (.text stamp)

/-- What is inserted in a table is appended to what the handle saw there, if it does not fail. -/
theorem Engine.tableOf_insert {engine : Engine} {handle : Handle} {statement : Insert}
    {rows : List Row} (seen : engine.tableOf handle statement.table = .ok rows) :
    ∃ new, (engine.write handle (.insert statement)).2.tableOf handle statement.table =
      .ok (rows ++ new) := by
  cases answered : (engine.write handle (.insert statement)).1 with
  | ok answer =>
    obtain ⟨keyed, -, -, grown⟩ := grown_insert answered
    refine ⟨keyed.map (·.2), ?_⟩
    rw [grown.rows, seen]
    rfl
  | error e =>
    refine ⟨[], ?_⟩
    rw [tableOf_write_failed answered, seen, List.append_nil]

/-- What a handle sees of a table is shown. -/
theorem Engine.shows_of_tableOf {engine : Engine} {handle : Handle} {table : String}
    {rows : List Row} (seen : engine.tableOf handle table = .ok rows) :
    engine.Shows handle table rows (engine.shared.sequence table) :=
  ⟨tableOf_eq_ok.1 seen, rfl⟩

theorem Engine.Shows.tableOf_eq {engine : Engine} {handle : Handle} {table : String}
    {rows : List Row} {last : Int} (shown : engine.Shows handle table rows last) :
    engine.tableOf handle table = .ok rows :=
  tableOf_eq_ok.2 shown.held

namespace Model

/-! ### Rows that are told apart -/

/-- The rows of the entity are told apart by small integers, and no column hides their time of
deletion by taking its qualified name. -/
structure Numbered (m : Model) (rows : List Row) : Prop where
  keys : ∀ row ∈ rows, (row.value m.primaryKey).IsKey
  present : ∀ row ∈ rows, row.value m.primaryKey ≠ .null
  distinct : (rows.map (·.value m.primaryKey)).Nodup
  unhidden : ∀ row ∈ rows, row.get? (qualified m.table "deleted_at") = none

instance (m : Model) (rows : List Row) : Decidable (m.Numbered rows) :=
  decidable_of_iff (_ ∧ _ ∧ _ ∧ _)
    ⟨fun h => ⟨h.1, h.2.1, h.2.2.1, h.2.2.2⟩,
      fun h => ⟨h.keys, h.present, h.distinct, h.unhidden⟩⟩

/-- The row has the same key as the other one. -/
def SameKey (m : Model) (row row' : Row) : Prop :=
  row'.value m.primaryKey = row.value m.primaryKey

variable {m : Model} {rows : List Row} {row row' : Row} {id : Int}

/-- Going to the trash changes no key that is in another column. -/
theorem SameKey.of_trashes (change : row.Trashes row')
    (other : row.isTrashed = false → m.primaryKey ≠ "deleted_at") : m.SameKey row row' := by
  rcases change with rfl | ⟨live, stamp, rfl⟩
  · rfl
  · unfold SameKey Row.value
    rw [Row.get?_insert_of_ne _ _ (other live)]

namespace Numbered

theorem eq_of_sameKey (numbered : m.Numbered rows) (mem : row ∈ rows) (mem' : row' ∈ rows)
    (same : m.SameKey row row') : row' = row :=
  List.inj_on_of_nodup_map numbered.distinct mem' mem same

/-- A live row has its key in another column than the time of its deletion. -/
theorem key_ne (numbered : m.Numbered rows) (mem : row ∈ rows) (live : row.isTrashed = false) :
    m.primaryKey ≠ "deleted_at" := by
  intro same
  have some := numbered.present row mem
  have key := numbered.keys row mem
  rw [Row.isTrashed_eq, Row.deletedAt, ← same] at live
  generalize row.value m.primaryKey = v at some key live
  cases key with
  | null => exact some rfl
  | int => cases live

theorem keyIs_iff (numbered : m.Numbered rows) (plain : '.' ∉ m.primaryKey.toList)
    (mem : row ∈ rows) (id : Int) : m.reads id row = true ↔ row.value m.primaryKey = .int id := by
  have key := numbered.keys row mem
  rw [m.reads_plain plain]
  generalize row.value m.primaryKey = v at key
  cases key with
  | null =>
    rw [Value.null_looseEq]
    exact iff_of_false Bool.false_ne_true fun same => nomatch same
  | @int n small =>
    rw [Value.looseEq_int_small small, decide_eq_true_eq]
    constructor
    · intro same
      rw [same]
    · intro same
      cases same
      rfl

/-- Rows are still told apart when some live ones have gone to the trash. -/
theorem map (numbered : m.Numbered rows) {change : Row → Row}
    (each : ∀ row ∈ rows, row.Trashes (change row)) : m.Numbered (rows.map change) := by
  have kept : ∀ row ∈ rows, m.SameKey row (change row) :=
    fun row mem => .of_trashes (each row mem) (numbered.key_ne mem)
  constructor
  · intro row mem
    obtain ⟨old, there, rfl⟩ := List.mem_map.1 mem
    rw [kept old there]
    exact numbered.keys old there
  · intro row mem
    obtain ⟨old, there, rfl⟩ := List.mem_map.1 mem
    rw [kept old there]
    exact numbered.present old there
  · rw [List.map_map]
    have same : rows.map ((·.value m.primaryKey) ∘ change) = rows.map (·.value m.primaryKey) :=
      List.map_congr_left kept
    rw [same]
    exact numbered.distinct
  · intro row mem
    obtain ⟨old, there, rfl⟩ := List.mem_map.1 mem
    rcases each old there with same | ⟨-, stamp, same⟩
    · rw [same]
      exact numbered.unhidden old there
    · have other : qualified m.table "deleted_at" ≠ "deleted_at" :=
        fun same => absurd (same ▸ dot_mem_qualified m.table "deleted_at") (by decide)
      rw [same, Row.get?_insert_of_ne _ _ other]
      exact numbered.unhidden old there

end Numbered

/-! ### What becomes of the rows -/

/-- Every row stays with its key. The time of its deletion stays as well, unless the row is live
and goes to the trash. -/
def Stays (m : Model) (before after : List Row) : Prop :=
  ∀ row ∈ before, ∃ row' ∈ after, m.SameKey row row' ∧
    (row'.deletedAt = row.deletedAt ∨ row.isTrashed = false ∧ row'.isTrashed = true)

namespace Stays

variable {before between after : List Row}

theorem of_subset (still : before ⊆ after) : m.Stays before after :=
  fun row mem => ⟨row, still mem, rfl, Or.inl rfl⟩

theorem map {change : Row → Row} (each : ∀ row ∈ before, m.SameKey row (change row) ∧
      ((change row).deletedAt = row.deletedAt ∨
        row.isTrashed = false ∧ (change row).isTrashed = true)) :
    m.Stays before (before.map change) :=
  fun row mem => ⟨change row, List.mem_map_of_mem mem, each row mem⟩

/-- What is in the trash stays there. -/
theorem trashed (stays : m.Stays before after) (mem : row ∈ before)
    (trashed : row.isTrashed = true) : ∃ row' ∈ after, m.SameKey row row' ∧
      row'.deletedAt = row.deletedAt ∧ row'.isTrashed = true := by
  obtain ⟨row', there, key, same | ⟨live, -⟩⟩ := stays row mem
  · refine ⟨row', there, key, same, ?_⟩
    rw [Row.isTrashed_eq, same, ← Row.isTrashed_eq, trashed]
  · rw [trashed] at live
    cases live

theorem trans (stays : m.Stays before between) (later : m.Stays between after) :
    m.Stays before after := by
  intro row mem
  obtain ⟨row', there, key, first⟩ := stays row mem
  rcases first with same | ⟨live, gone⟩
  · obtain ⟨row'', there', key', next⟩ := later row' there
    refine ⟨row'', there', key'.trans key, ?_⟩
    rw [same] at next
    exact next.imp_right fun ⟨live, gone⟩ => ⟨by rwa [Row.isTrashed_eq, ← same], gone⟩
  · obtain ⟨row'', there', key', -, gone'⟩ := later.trashed there gone
    exact ⟨row'', there', key'.trans key, Or.inr ⟨live, gone'⟩⟩

end Stays

/-! ### Going to the trash by key -/

variable {db : Database} {s : Session}

/-- A key can be deleted where a live row has it. -/
theorem selects_deletable (soft : m.traits.softDeletes = true) (store : Store) (id : Int)
    (row : Row) :
    store.selects m.table (m.deletable id) row = (m.reads id row && !row.isTrashed) := by
  have shown := Scope.lookup_ofRow m.table row (by decide : '.' ∉ "deleted_at".toList)
  unfold deletable Store.selects
  rw [if_pos soft]
  simp only [Store.satisfiesTree, Store.satisfiesRest, keyIs, Store.satisfies, Operator.holds_eq,
    shown, reduceCtorEq, if_false]
  unfold reads Row.isTrashed Row.value
  rw [Bool.not_not]

/-- The row of a key is looked for among the live ones. -/
theorem run_lookup (soft : m.traits.softDeletes = true)
    (seen : s.engine.tableOf db.handle m.table = .ok rows) (id : Int) :
    ∃ s', s'.engine = s.engine ∧ s'.announcements = s.announcements ∧
      Task.selectFirst { table := m.table, conditions := m.deletable id } db s =
        (.ok (rows.find? fun row => m.reads id row && !row.isTrashed), s') := by
  obtain ⟨store, opened, rfl⟩ := Engine.tableOf_eq_ok.1 seen
  let asked : Select := { table := m.table, conditions := m.deletable id }
  have whole : asked.Whole := ⟨rfl, rfl, rfl, rfl, rfl⟩
  have found := store.head?_select whole rfl rfl
  rw [funext (selects_deletable soft store id)] at found
  refine ⟨{ s with received := s.received ++ [.select { asked with limit := some 1 }] }, rfl, rfl,
    ?_⟩
  unfold Task.selectFirst
  rw [Work.run_bind, Task.run_select, Engine.select_eq, opened, ← found]
  rfl

/-- Moves the row of a key to the trash, reads it again and announces it. -/
def discarding (m : Model) (id : Int) : Task (Option Row) := do
  let values := Row.empty.insert "deleted_at" (← Task.stamp)
  let _ ← Task.update (m.updateOf id values)
  let row ← m.reread id "deleted"
  Task.announce m .deleted (Instance.ofRow m row).toValue
  return some row

/-- The update by which the row of a key goes to the trash. -/
def discard (m : Model) (id : Int) (stamp : String) : Row → Row :=
  m.rewrite id (Row.empty.insert "deleted_at" (.text stamp))

theorem discard_eq (m : Model) (id : Int) (stamp : String) (row : Row) :
    m.discard id stamp row =
      if m.reads id row then row.insert "deleted_at" (.text stamp) else row := rfl

/-- How moving the row of a key to the trash ends: no live row has the key and nothing is done, or
the one that has it is given the time and announced. -/
inductive Trashing (m : Model) (id : Int) (db : Database) (s : Session) (rows : List Row) :
    Except Error (Option Row) × Session → Prop where
  | missing {s' : Session}
    (missing : ∀ row ∈ rows, row.value m.primaryKey = .int id → row.isTrashed = true)
    (still : s'.engine = s.engine) (silent : s'.announcements = s.announcements) :
    Trashing m id db s rows (.error (.noRecord m.name id), s')
  | moved {row : Row} {stamp : String} {s' : Session} (mem : row ∈ rows)
    (key : row.value m.primaryKey = .int id) (live : row.isTrashed = false)
    (rewritten : s'.engine.tableOf db.handle m.table = .ok (rows.map (m.discard id stamp)))
    (announced : s'.announcements = s.announcements ++
      db.announced ⟨m, .deleted, row.insert "deleted_at" (.text stamp)⟩) :
    Trashing m id db s rows (.ok (some (row.insert "deleted_at" (.text stamp))), s')

section

variable (numbered : m.Numbered rows) (plain : '.' ∉ m.primaryKey.toList)

include numbered plain

/-- Only the row of the key is touched, and it was live. -/
theorem trashes_discard (mem : row ∈ rows) (key : row.value m.primaryKey = .int id)
    (live : row.isTrashed = false) (stamp : String) :
    ∀ other ∈ rows, other.Trashes (m.discard id stamp other) := by
  intro other there
  rw [discard_eq]
  by_cases reads : m.reads id other = true
  · have same : m.SameKey row other := ((numbered.keyIs_iff plain there id).1 reads).trans key.symm
    rw [if_pos reads, numbered.eq_of_sameKey mem there same]
    exact Or.inr ⟨live, stamp, rfl⟩
  · rw [if_neg reads]
    exact Or.inl rfl

/-- The row of the key is in its place, with its key and its time. -/
theorem discarded_mem (mem : row ∈ rows) (key : row.value m.primaryKey = .int id)
    (live : row.isTrashed = false) (stamp : String) :
    row.insert "deleted_at" (.text stamp) ∈ rows.map (m.discard id stamp) ∧
      m.SameKey row (row.insert "deleted_at" (.text stamp)) := by
  have own : m.discard id stamp row = row.insert "deleted_at" (.text stamp) := by
    rw [discard_eq, if_pos ((numbered.keyIs_iff plain mem id).2 key)]
  exact ⟨own ▸ List.mem_map_of_mem mem,
    .of_trashes (Or.inr ⟨live, stamp, rfl⟩) (numbered.key_ne mem)⟩

/-- The row of the key is read back as it was written. -/
theorem find?_discard (mem : row ∈ rows) (key : row.value m.primaryKey = .int id)
    (live : row.isTrashed = false) (stamp : String) :
    (rows.map (m.discard id stamp)).find? (m.reads id) =
      some (row.insert "deleted_at" (.text stamp)) := by
  have after := numbered.map (trashes_discard numbered plain mem key live stamp)
  obtain ⟨there, keyToo⟩ := discarded_mem numbered plain mem key live stamp
  cases found : (rows.map (m.discard id stamp)).find? (m.reads id) with
  | none =>
    have unread := List.find?_eq_none.1 found _ there
    exact absurd ((after.keyIs_iff plain there id).2 (keyToo.trans key)) unread
  | some other =>
    have mem' := List.mem_of_find?_eq_some found
    have keyOther := (after.keyIs_iff plain mem' id).1 (List.find?_some found)
    have same : m.SameKey (row.insert "deleted_at" (.text stamp)) other :=
      keyOther.trans (keyToo.trans key).symm
    rw [after.eq_of_sameKey there mem' same]

/-- The row of a key that is live is given the time of its deletion and announced. -/
theorem run_discarding (seen : s.engine.tableOf db.handle m.table = .ok rows) (mem : row ∈ rows)
    (key : row.value m.primaryKey = .int id) (live : row.isTrashed = false) :
    ∃ stamp s', m.discarding id db s = (.ok (some (row.insert "deleted_at" (.text stamp))), s') ∧
      s'.engine.tableOf db.handle m.table = .ok (rows.map (m.discard id stamp)) ∧
      s'.announcements = s.announcements ++
        db.announced ⟨m, .deleted, row.insert "deleted_at" (.text stamp)⟩ := by
  let stamp := s.clock.text
  let later : Session := { s with clock := s.clock.next }
  obtain ⟨written, rewritten, quiet, updated⟩ :=
    m.run_updateOf id (Row.empty.insert "deleted_at" (.text stamp)) db later
  rw [show later.engine.tableOf db.handle m.table = .ok rows from seen] at updated
  have after : written.engine.tableOf db.handle m.table = .ok (rows.map (m.discard id stamp)) := by
    rw [rewritten.rows, show later.engine.tableOf db.handle m.table = .ok rows from seen]
    rfl
  obtain ⟨read, still, silent, reread⟩ := m.run_reread id "deleted" db written
  rw [after] at reread
  dsimp only [Except.bind] at reread
  rw [find?_discard numbered plain mem key live stamp] at reread
  let gone := row.insert "deleted_at" (.text stamp)
  have announced := Task.run_announce ⟨m, .deleted, gone⟩ db read
  refine ⟨stamp, { read with
    announcements := read.announcements ++ db.announced ⟨m, .deleted, gone⟩ }, ?_, ?_, ?_⟩
  · unfold discarding
    rw [Work.run_bind, show Task.stamp db s = (.ok (.text stamp), later) from rfl]
    dsimp only [Except.map] at updated ⊢
    rw [Work.run_bind, updated]
    dsimp only [Option.elim] at reread announced ⊢
    rw [Work.run_bind, reread]
    dsimp only
    rw [Work.run_bind, announced]
    rfl
  · change read.engine.tableOf db.handle m.table = _
    rw [still, after]
  · change read.announcements ++ _ = _
    rw [silent, quiet]

/-- How a deletion by key ends. -/
theorem trashing_deleteRow (soft : m.traits.softDeletes = true)
    (seen : s.engine.tableOf db.handle m.table = .ok rows) (id : Int) :
    m.Trashing id db s rows (m.deleteRow id db s) := by
  obtain ⟨looked, still, silent, lookup⟩ := run_lookup soft seen id
  unfold deleteRow
  rw [Work.run_bind, lookup]
  dsimp only
  cases found : rows.find? fun row => m.reads id row && !row.isTrashed with
  | none =>
    refine .missing (fun row mem key => ?_) still silent
    have passed := List.find?_eq_none.1 found row mem
    rw [(numbered.keyIs_iff plain mem id).2 key, Bool.true_and, Bool.not_eq_true',
      Bool.not_eq_false] at passed
    exact passed
  | some row =>
    have mem := List.mem_of_find?_eq_some found
    have holds := List.find?_some found
    rw [Bool.and_eq_true, Bool.not_eq_true'] at holds
    have key := (numbered.keyIs_iff plain mem id).1 holds.1
    obtain ⟨stamp, s', ran, rewritten, announced⟩ :=
      run_discarding numbered plain (still ▸ seen) mem key holds.2
    dsimp only
    rw [if_pos soft]
    change m.Trashing id db s rows (m.discarding id db looked)
    rw [ran]
    exact .moved mem key holds.2 rewritten (silent ▸ announced)

end

/-! ### What a deletion comes to -/

/-- What becomes of the rows, and the rows whose deletion is announced: each went to the trash in
between, and there is one of a key. -/
structure Course (m : Model) (before after gone : List Row) : Prop where
  stays : m.Stays before after
  once : (gone.map (·.value m.primaryKey)).Nodup
  arrived : ∀ row ∈ gone, ∃ row' ∈ after, m.SameKey row row' ∧ row'.isTrashed = true
  left : ∀ row ∈ gone, ∀ old ∈ before, m.SameKey old row → old.isTrashed = false

namespace Course

variable {before between after gone goneToo : List Row}

/-- Nothing is announced. -/
theorem silent (stays : m.Stays before after) : m.Course before after [] where
  stays := stays
  once := List.nodup_nil
  arrived := fun _ none => nomatch none
  left := fun _ none => nomatch none

theorem trans (course : m.Course before between gone) (later : m.Course between after goneToo) :
    m.Course before after (gone ++ goneToo) := by
  constructor
  · exact course.stays.trans later.stays
  · rw [List.map_append, List.nodup_append]
    refine ⟨course.once, later.once, ?_⟩
    -- What is announced later is live in between, what was announced before is in the trash.
    rintro _ first _ second same
    obtain ⟨row, hrow, rfl⟩ := List.mem_map.1 first
    obtain ⟨other, hother, rfl⟩ := List.mem_map.1 second
    obtain ⟨row', there, key, trashed⟩ := course.arrived row hrow
    have live := later.left other hother row' there (same.symm.trans key.symm)
    rw [trashed] at live
    cases live
  · intro row mem
    rcases List.mem_append.1 mem with first | second
    · obtain ⟨row', there, key, trashed⟩ := course.arrived row first
      obtain ⟨row'', there', key', -, still⟩ := later.stays.trashed there trashed
      exact ⟨row'', there', key'.trans key, still⟩
    · exact later.arrived row second
  · intro row mem old there key
    rcases List.mem_append.1 mem with first | second
    · exact course.left row first old there key
    · obtain ⟨old', there', key', same | ⟨live, -⟩⟩ := course.stays old there
      · have live := later.left row second old' there' (key.trans key'.symm)
        rw [Row.isTrashed_eq, same, ← Row.isTrashed_eq] at live
        exact live
      · exact live

end Course

/-- A step from one session to another, as the handle sees the rows of the entity: they stay told
apart, and what is announced are the deletions of the rows that went to the trash. -/
structure Moves (m : Model) (db : Database) (s s' : Session) (rows rows' gone : List Row) :
    Prop where
  seen : s'.engine.tableOf db.handle m.table = .ok rows'
  numbered : m.Numbered rows'
  course : m.Course rows rows' gone
  announced : s'.announcements =
    s.announcements ++ gone.flatMap fun row => db.announced ⟨m, .deleted, row⟩

/-- Rows that stay or go to the trash make a course. -/
theorem Stays.of_trashes (numbered : m.Numbered rows) {change : Row → Row}
    (each : ∀ row ∈ rows, row.Trashes (change row)) : m.Stays rows (rows.map change) := by
  refine .map fun row mem => ⟨.of_trashes (each row mem) (numbered.key_ne mem), ?_⟩
  rcases each row mem with same | ⟨live, stamp, same⟩
  · exact Or.inl (by rw [same])
  · exact Or.inr ⟨live, by rw [same, Row.isTrashed_insert]⟩

namespace Moves

variable {s' s'' : Session} {rows' rows'' gone gone' : List Row}

theorem still (seen : s.engine.tableOf db.handle m.table = .ok rows) (numbered : m.Numbered rows)
    (same : s'.engine = s.engine) (silent : s'.announcements = s.announcements) :
    m.Moves db s s' rows rows [] where
  seen := by rw [same, seen]
  numbered := numbered
  course := .silent (.of_subset (List.Subset.refl rows))
  announced := by rw [silent, List.flatMap_nil, List.append_nil]

theorem trans (first : m.Moves db s s' rows rows' gone) (later : m.Moves db s' s'' rows' rows'' gone') :
    m.Moves db s s'' rows rows'' (gone ++ gone') where
  seen := later.seen
  numbered := later.numbered
  course := first.course.trans later.course
  announced := by
    rw [later.announced, first.announced, List.flatMap_append, List.append_assoc]

end Moves

section

variable (soft : m.traits.softDeletes = true) (plain : '.' ∉ m.primaryKey.toList)
  (seen : s.engine.tableOf db.handle m.table = .ok rows) (numbered : m.Numbered rows)

include soft plain seen numbered

/-- A deletion by key. -/
theorem moves_deleteRow (id : Int) :
    ∃ rows' gone, m.Moves db s (m.deleteRow id db s).2 rows rows' gone := by
  have ends := trashing_deleteRow numbered plain soft seen id
  generalize m.deleteRow id db s = outcome at ends
  cases ends with
  | missing _ still silent => exact ⟨rows, [], .still seen numbered still silent⟩
  | @moved row stamp s' mem key live rewritten announced =>
    have trashes := trashes_discard numbered plain mem key live stamp
    have after := numbered.map trashes
    obtain ⟨there, keyToo⟩ := discarded_mem numbered plain mem key live stamp
    refine ⟨_, [row.insert "deleted_at" (.text stamp)], rewritten, after, ?_, ?_⟩
    · constructor
      · exact .of_trashes numbered trashes
      · exact List.nodup_singleton _
      · intro other mem'
        rw [List.mem_singleton.1 mem']
        exact ⟨_, there, rfl, Row.isTrashed_insert row stamp⟩
      · intro other mem' old mem'' same
        rw [List.mem_singleton.1 mem'] at same
        rw [← numbered.eq_of_sameKey mem'' mem (keyToo.symm.trans same)]
        exact live
    · rw [List.flatMap_singleton]
      exact announced

end

/-! ### Going to the trash by a query, and other writes -/

/-- A query in the scope of the trash selects live rows only. -/
theorem live_of_selects (soft : m.traits.softDeletes = true) (numbered : m.Numbered rows)
    {q : Query} (model : q.model = m) (scope : q.scope = .untrashed) (store : Store)
    (mem : row ∈ rows) (selected : store.selects m.table q.scopedConditions row = true) :
    row.isTrashed = false := by
  subst model
  have unhidden := Row.not_mem_keys (numbered.unhidden row mem)
  unfold Store.selects at selected
  rw [q.satisfies_scopedConditions soft (Scope.lookup_qualified_of_unhidden unhidden), scope,
    Bool.and_eq_true] at selected
  exact Bool.not_eq_true' _ ▸ selected.2

/-- A query in the scope of the trash moves live rows only, and announces nothing. -/
theorem moves_delete (soft : m.traits.softDeletes = true)
    (seen : s.engine.tableOf db.handle m.table = .ok rows) (numbered : m.Numbered rows) {q : Query}
    (model : q.model = m) (scope : q.scope = .untrashed) :
    ∃ rows', m.Moves db s (q.delete db s).2 rows rows' [] := by
  let moving : Update :=
    { table := m.table
      values := Row.empty.insert "deleted_at" (.text s.clock.text)
      conditions := q.scopedConditions }
  have deletes : q.delete db s = Task.update moving db { s with clock := s.clock.next } := by
    unfold Query.delete
    rw [model, if_pos soft]
    rfl
  obtain ⟨store, -, shown⟩ :=
    (Engine.shows_of_tableOf seen).update moving.values moving.conditions
  have trashes : ∀ row ∈ rows, row.Trashes
      (if store.selects m.table moving.conditions row then row.merge moving.values else row) := by
    intro row mem
    split
    · next selected =>
      exact Or.inr ⟨live_of_selects soft numbered model scope store mem selected, _, rfl⟩
    · exact Or.inl rfl
  rw [deletes, Task.session_update]
  exact ⟨_, shown.tableOf_eq, numbered.map trashes, .silent (.of_trashes numbered trashes),
    by rw [List.flatMap_nil, List.append_nil]; rfl⟩

end Model

/-- The write gives no row of the entity a time of deletion, moves none to another key, and removes
none. -/
def Write.SparesTrash (m : Model) : Write → Prop
  | .insert _ => True
  | .update statement => statement.table = m.table →
      statement.values.get? "deleted_at" = none ∧ statement.values.get? m.primaryKey = none
  | .delete statement => statement.table ≠ m.table

/-- Under such a write rows stay. -/
theorem Write.SparesTrash.stays {m : Model} {db : Database} {s : Session} {rows : List Row}
    {w : Write} (spares : w.SparesTrash m)
    (seen : s.engine.tableOf db.handle m.table = .ok rows) :
    ∃ rows', (Task.write w db s).2.engine.tableOf db.handle m.table = .ok rows' ∧
      m.Stays rows rows' := by
  have shown := Engine.shows_of_tableOf seen
  by_cases other : m.table = w.target
  · cases w with
    | insert statement =>
      change m.table = statement.table at other
      rw [other] at seen
      obtain ⟨new, appended⟩ := Engine.tableOf_insert seen
      rw [← other] at appended
      exact ⟨rows ++ new, appended, .of_subset (List.subset_append_left rows new)⟩
    | update statement =>
      obtain ⟨table, values, conditions⟩ := statement
      cases other
      obtain ⟨untouched, unmoved⟩ := spares rfl
      obtain ⟨store, -, changed⟩ := shown.update values conditions
      refine ⟨_, changed.tableOf_eq, .map fun row mem => ?_⟩
      have kept {name : String} (unset : values.get? name = none) :
          (row.merge values).value name = row.value name := by
        unfold Row.value
        rw [Row.get?_merge, unset, Option.none_or]
      split
      · exact ⟨kept unmoved, Or.inl (kept untouched)⟩
      · exact ⟨rfl, Or.inl rfl⟩
    | delete statement => exact absurd other.symm spares
  · exact ⟨rows, (shown.write other).tableOf_eq, .of_subset (List.Subset.refl rows)⟩

end EntityStore
