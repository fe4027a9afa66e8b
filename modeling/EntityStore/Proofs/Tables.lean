import EntityStore.Proofs.KeyValues
import EntityStore.Proofs.LooseEquality
import EntityStore.Proofs.Shown

/-!
# Tables of records

A table whose rows are written from records of a type, each with a key (`Table`), is known by the
list of its records (`Table.Holds`). There is one rule a statement: selections read the records that
pass the test which their conditions come to (`Table.Decides`), an insertion appends the record that
its row is written from, updates and deletes change the records that pass. A table that names the
owners of its rows decides the conditions on one owner (`OwnedTable`).
-/

namespace EntityStore

namespace Store

/-- Conditions that are joined by AND all hold. -/
theorem satisfiesTree_all (store : Store) (scope : Scope) {tree : ConditionTree}
    (plain : tree.hasOr = false) :
    store.satisfiesTree scope tree = tree.all fun node => store.satisfies scope node.2 := by
  induction tree using List.reverseRecOn with
  | nil => rw [satisfiesTree]; rfl
  | append_singleton before node ih =>
    obtain ⟨conjunction, condition⟩ := node
    have parts : ConditionTree.hasOr before = false ∧ conjunction ≠ .or := by
      simpa [ConditionTree.hasOr] using plain
    obtain rfl : conjunction = .and := by cases conjunction <;> simp_all
    change store.satisfiesTree scope (ConditionTree.also before condition) = _
    rw [satisfiesTree_also store scope parts.1, ih parts.1, List.all_append, List.all_cons,
      List.all_nil, Bool.and_true]

/-- Comparing a column of a row by its plain name with a value. -/
theorem satisfies_compare (store : Store) (table : String) (row : Row) {column : String}
    (plain : '.' ∉ column.toList) (v : Value) :
    store.satisfies (.ofRow table row) (.compare column .eq v) = (row.value column).looseEq v := by
  rw [satisfies, Scope.lookup_ofRow table row plain, Operator.holds_eq]

end Store

/-- Comparing with an integer of at most 53 bits tells integers apart. -/
theorem Value.looseEq_small {m n : Int} (small : Binary64.IsSmall n) :
    (Value.int m).looseEq (.int n) = (m == n) := by
  rw [looseEq_comm, looseEq_int_small small, Bool.eq_iff_iff, decide_eq_true_eq, beq_iff_eq]
  exact eq_comm

theorem fitsInt64_of_small {n : Int} (small : Binary64.IsSmall n) : fitsInt64 n = true := by
  unfold Binary64.IsSmall Binary64.precision at small
  unfold fitsInt64 minInt64 maxInt64
  rw [Bool.and_eq_true, decide_eq_true_eq, decide_eq_true_eq]
  omega

theorem le_maxInt64_of_small {n : Int} (small : Binary64.IsSmall n) : n ≤ maxInt64 :=
  of_decide_eq_true (Bool.and_eq_true_iff.1 (fitsInt64_of_small small)).2

namespace Row

theorem value_eq {row : Row} {column : String} {v : Value} (found : row.get? column = some v) :
    row.value column = v := by
  rw [Row.value, found]
  rfl

/-- A new row with the stamps of its creation. -/
def stamped (row : Row) (stamp : String) : Row :=
  (row.insertNew "created_at" (.text stamp)).insertNew "updated_at" (.text stamp)

end Row

/-- A table whose rows are written from records, each with a key of its own. -/
structure Table (ι : Type) where
  name : String
  row : ι → Row
  id : ι → Int
  keyed : ∀ item, (row item).get? "id" = some (.int (id item))

namespace Table

variable {ι : Type} {table : Table ι}

/-- The handle is open and the table holds the rows of the records. Their keys are distinct and were
drawn one after the other; `last` is the last one. -/
structure Holds (table : Table ι) (engine : Engine) (handle : Handle) (items : List ι)
    (last : Int) :
    Prop where
  shown : engine.Shows handle table.name (items.map table.row) last
  counted : 0 ≤ last
  fits : last ≤ maxInt64
  keys : ∀ item ∈ items, 0 < table.id item ∧ table.id item ≤ last
  distinct : (items.map table.id).Nodup

/-- Of the rows of the records the conditions select those of the records that pass the test,
whatever else the store holds. -/
def Decides (table : Table ι) (conditions : ConditionTree) (items : List ι)
    (test : ι → Bool) : Prop :=
  ∀ (store : Store), ∀ item ∈ items,
    store.selects table.name conditions (table.row item) = test item

/-- Conditions joined by AND come to the conjunction of what each of them comes to. -/
theorem decides_all {conditions : ConditionTree} {items : List ι} (plain : conditions.hasOr = false)
    {test : ι → Bool}
    (each : ∀ (store : Store), ∀ item ∈ items,
      (conditions.all fun node => store.satisfies (.ofRow table.name (table.row item)) node.2) =
        test item) :
    table.Decides conditions items test :=
  fun store item mem => (store.satisfiesTree_all _ plain).trans (each store item mem)

namespace Holds

variable {engine : Engine} {handle : Handle} {items : List ι} {last : Int}

/-- A table without rows holds no records. -/
theorem empty (shown : engine.Shows handle table.name [] last) (counted : 0 ≤ last)
    (fits : last ≤ maxInt64) : table.Holds engine handle [] last where
  shown := shown
  counted := counted
  fits := fits
  keys _ mem := nomatch mem
  distinct := List.nodup_nil

/-- The key of a record is an integer of 64 bits. -/
theorem id_fits (holds : table.Holds engine handle items last) {item : ι} (mem : item ∈ items) :
    fitsInt64 (table.id item) = true := by
  have := holds.keys item mem
  have := holds.fits
  have low : minInt64 ≤ table.id item := by
    unfold minInt64
    omega
  exact Bool.and_eq_true_iff.2 ⟨decide_eq_true low, decide_eq_true (by omega)⟩

theorem id_small (holds : table.Holds engine handle items last) (small : Binary64.IsSmall last)
    {item : ι} (mem : item ∈ items) : Binary64.IsSmall (table.id item) := by
  have := holds.keys item mem
  exact small.of_le (by omega) this.2

theorem keys_le (holds : table.Holds engine handle items last) :
    ∀ row ∈ items.map table.row, ∀ key, Store.keyOf? "id" row = some key → key ≤ last := by
  intro row mem key carried
  obtain ⟨old, hold, rfl⟩ := List.mem_map.1 mem
  rw [Store.keyOf?, table.keyed, Option.bind_some] at carried
  have same : table.id old = key := by
    simpa [Value.int, Value.asInt64?, holds.id_fits hold] using carried
  exact same ▸ (holds.keys old hold).2

theorem next_fits (holds : table.Holds engine handle items last) (room : last + 1 ≤ maxInt64) :
    fitsInt64 (last + 1) = true := by
  have := holds.counted
  have low : minInt64 ≤ last + 1 := by
    unfold minInt64
    omega
  exact Bool.and_eq_true_iff.2 ⟨decide_eq_true low, decide_eq_true room⟩

/-- The record under the next key is the only one that is found by it, when keys are told apart. -/
theorem find?_next (holds : table.Holds engine handle items last) {item : ι}
    (next : table.id item = last + 1) (small : Binary64.IsSmall (last + 1)) :
    ((items ++ [item]).find? fun other =>
      (Value.int (table.id other)).looseEq (.int (last + 1))) = some item := by
  have unmatched : items.find? (fun other =>
      (Value.int (table.id other)).looseEq (.int (last + 1))) = none := by
    refine List.find?_eq_none.2 fun old mem => ?_
    have bound := holds.keys old mem
    have smallToo : Binary64.IsSmall (table.id old) := small.of_le (by omega) (by omega)
    rw [Value.looseEq_int_small smallToo]
    simp only [decide_eq_true_eq]
    omega
  rw [List.find?_append, unmatched, Option.none_or, List.find?_singleton, next,
    if_pos (Value.looseEq_int_self _)]

/-- There are no more records than keys were drawn. -/
theorem length_le (holds : table.Holds engine handle items last) : (items.length : Int) ≤ last := by
  have within : (items.map table.id).toFinset ⊆ Finset.Icc 1 last := by
    intro key mem
    obtain ⟨item, hitem, rfl⟩ := List.mem_map.1 (List.mem_toFinset.1 mem)
    have := holds.keys item hitem
    exact Finset.mem_Icc.2 ⟨by omega, this.2⟩
  have card := Finset.card_le_card within
  rw [List.toFinset_card_of_nodup holds.distinct, List.length_map, Int.card_Icc] at card
  have := holds.counted
  omega

theorem congr {other : Engine} (holds : table.Holds engine handle items last)
    (same : other = engine) :
    table.Holds other handle items last :=
  same ▸ holds

/-- Fewer records are held as well as all of them. -/
theorem sublist {other : Engine} {fewer : List ι} (holds : table.Holds engine handle items last)
    (sub : fewer.Sublist items) (shown : other.Shows handle table.name (fewer.map table.row) last) :
    table.Holds other handle fewer last where
  shown := shown
  counted := holds.counted
  fits := holds.fits
  keys item mem := holds.keys item (sub.subset mem)
  distinct := holds.distinct.sublist (sub.map table.id)

/-- Records are changed in place when their keys stay. -/
theorem map {other : Engine} {change : ι → ι} (holds : table.Holds engine handle items last)
    (same : ∀ item, table.id (change item) = table.id item)
    (shown : other.Shows handle table.name ((items.map change).map table.row) last) :
    table.Holds other handle (items.map change) last where
  shown := shown
  counted := holds.counted
  fits := holds.fits
  keys item mem := by
    obtain ⟨old, hold, rfl⟩ := List.mem_map.1 mem
    rw [same]
    exact holds.keys old hold
  distinct := by
    have keys : (items.map change).map table.id = items.map table.id := by
      rw [List.map_map]
      exact List.map_congr_left fun item _ => same item
    rw [keys]
    exact holds.distinct

/-- A record under the next key is held at the end. -/
theorem append {other : Engine} {item : ι} (holds : table.Holds engine handle items last)
    (next : table.id item = last + 1) (room : last + 1 ≤ maxInt64)
    (shown : other.Shows handle table.name ((items ++ [item]).map table.row) (last + 1)) :
    table.Holds other handle (items ++ [item]) (last + 1) where
  shown := shown
  counted := by have := holds.counted; omega
  fits := room
  keys other mem := by
    rcases List.mem_append.1 mem with mem | mem
    · have := holds.keys other mem
      omega
    · rw [List.mem_singleton.1 mem, next]
      have := holds.counted
      omega
  distinct := by
    refine List.nodup_map_concat holds.distinct fun earlier mem same => ?_
    have := holds.keys earlier mem
    rw [next] at same
    omega

end Holds

/-! ### One rule a statement -/

section

variable (table) {db : Database} {s : Session} {items : List ι} {last : Int}
  {conditions : ConditionTree} {test : ι → Bool}

theorem select_held (holds : table.Holds s.engine db.handle items last)
    (decides : table.Decides conditions items test) :
    ∃ store, s.engine.storeOf db.handle = .ok store ∧
      store.select { table := table.name, conditions } = (items.filter test).map table.row := by
  obtain ⟨⟨store, opened, held⟩, -⟩ := holds.shown
  refine ⟨store, opened, ?_⟩
  rw [Store.select_unjoined store ⟨rfl, rfl, rfl, rfl, rfl⟩ rfl rfl, held, List.filter_map]
  exact congrArg (List.map table.row) (List.filter_congr fun item mem => decides store item mem)

/-- A selection answers the rows of the records that pass. -/
theorem select (holds : table.Holds s.engine db.handle items last)
    (decides : table.Decides conditions items test) :
    (Task.select { table := table.name, conditions }).Answers db s fun rows s' =>
      rows = (items.filter test).map table.row ∧ s'.engine = s.engine := by
  obtain ⟨store, opened, selected⟩ := select_held table holds decides
  rw [← selected]
  exact Task.Answers.select opened _

/-- The first row of a selection is that of the first record that passes. -/
theorem selectFirst (holds : table.Holds s.engine db.handle items last)
    (decides : table.Decides conditions items test) :
    (Task.selectFirst { table := table.name, conditions }).Answers db s fun row s' =>
      row = (items.find? test).map table.row ∧ s'.engine = s.engine := by
  obtain ⟨store, opened, selected⟩ := select_held table holds decides
  refine Task.Answers.bind (Task.Answers.select opened _) ?_
  rintro rows s' ⟨rfl, same⟩
  refine Task.Answers.pure ⟨?_, same⟩
  have whole : Select.Whole { table := table.name, conditions } := ⟨rfl, rfl, rfl, rfl, rfl⟩
  rw [store.select_limit whole 1, selected, List.head?_take, if_neg (by omega), List.head?_map,
    List.head?_filter]

/-- The records that pass are read back from their rows. -/
theorem fetch {α : Type} {read : Reader α} {view : ι → α}
    (holds : table.Holds s.engine db.handle items last)
    (decides : table.Decides conditions items test)
    (reads : ∀ item ∈ items, (table.row item).decode read = .ok (view item)) :
    (OwnedRows.fetch { table := table.name, conditions } read).Answers db s fun answer s' =>
      answer = (items.filter test).map view ∧ s'.engine = s.engine := by
  refine Task.Answers.bind (table.select holds decides) ?_
  rintro rows s' ⟨rfl, same⟩
  refine Task.Answers.ofExcept ?_ ⟨rfl, same⟩
  have each : ∀ item ∈ items.filter test, (table.row item).decode read = .ok (view item) :=
    fun item mem => reads item (List.mem_filter.1 mem).1
  generalize items.filter test = passing at each
  induction passing with
  | nil => rfl
  | cons item rest ih =>
    rw [List.map_cons, List.mapM_cons, each item List.mem_cons_self,
      ih fun other mem => each other (List.mem_cons_of_mem _ mem)]
    rfl

/-- The number of the records that pass. -/
theorem countOf (holds : table.Holds s.engine db.handle items last)
    (decides : table.Decides conditions items test) :
    (OwnedRows.countOf { table := table.name, conditions }).Answers db s fun answer s' =>
      answer = ((items.filter test).length : Int) ∧ s'.engine = s.engine := by
  obtain ⟨store, opened, selected⟩ := select_held table holds decides
  have number : ((store.rows table.name).flatMap
      (Select.matching store { table := table.name, conditions })).length =
        (items.filter test).length := by
    rw [← Store.length_select store ⟨rfl, rfl, rfl, rfl, rfl⟩, selected, List.length_map]
  have fits : fitsInt64 ((items.filter test).length : Int) = true := by
    have := holds.length_le
    have := holds.fits
    have := List.length_filter_le test items
    have low : minInt64 ≤ ((items.filter test).length : Int) := by
      unfold minInt64
      omega
    exact Bool.and_eq_true_iff.2 ⟨decide_eq_true low, decide_eq_true (by omega)⟩
  unfold OwnedRows.countOf
  refine Task.Answers.bind (Task.Answers.bind (Task.Answers.select opened _) ?_)
    (Q := fun row s' =>
      row = some (Row.empty.insert aggregateAlias (.int (items.filter test).length)) ∧
        s'.engine = s.engine) ?_
  · rintro rows s' ⟨rfl, same⟩
    refine Task.Answers.pure ⟨?_, same⟩
    rw [Store.select_count store rfl rfl]
    change some (Row.empty.insert aggregateAlias (.int ((store.rows table.name).flatMap
      (Select.matching store { table := table.name, conditions })).length)) = _
    rw [number]
  · rintro row s' ⟨rfl, same⟩
    refine Task.Answers.pure ⟨?_, same⟩
    rw [Option.bind_some, Row.get?_insert_self]
    simp [Value.int, Value.asInt64?, fits]

/-- A row without a key is appended under the next key, as the row of a record. -/
theorem insert {row : Row} {item : ι} (holds : table.Holds s.engine db.handle items last)
    (keyless : row.get? "id" = none) (room : last + 1 ≤ maxInt64)
    (made : row.insert "id" (.int (last + 1)) = table.row item) (next : table.id item = last + 1) :
    (Task.insert { table := table.name, rows := [row] }).Answers db s fun keys s' =>
      keys = [last + 1] ∧ table.Holds s'.engine db.handle (items ++ [item]) (last + 1) := by
  have keyless' : Store.keyOf? "id" row = none := by
    rw [Store.keyOf?, keyless]
    rfl
  obtain ⟨answered, after⟩ := holds.shown.insert keyless' (holds.next_fits room) holds.keys_le
  refine Task.Answers.bind (Task.Answers.write answered) ?_
  rintro answer s' ⟨rfl, sameEngine⟩
  refine Task.Answers.pure ⟨rfl, holds.append next room ?_⟩
  rw [sameEngine, List.map_append, List.map_singleton, ← made]
  exact after

/-- A row without a key is stamped and appended under the next key, as the row of a record. What is
answered is read again by that key, so it is the row of this record when keys are told apart. -/
theorem insertStamped {values : Row} {item : ι} (holds : table.Holds s.engine db.handle items last)
    (keyless : (values.stamped s.clock.text).get? "id" = none) (room : last + 1 ≤ maxInt64)
    (made : (values.stamped s.clock.text).insert "id" (.int (last + 1)) = table.row item) :
    (Task.insertStamped table.name values).Answers db s fun answer s' =>
      table.Holds s'.engine db.handle (items ++ [item]) (last + 1) ∧
        (Binary64.IsSmall (last + 1) → answer = table.row item) := by
  have next : table.id item = last + 1 := by
    have found := table.keyed item
    rw [← made, Row.get?_insert_self] at found
    exact (Number.int.inj (Value.number.inj (Option.some.inj found))).symm
  have decides : table.Decides [(.and, .compare "id" .eq (.int (last + 1)))] (items ++ [item])
      fun other => (Value.int (table.id other)).looseEq (.int (last + 1)) := by
    refine decides_all rfl ?_
    intro store other _
    rw [List.all_cons, List.all_nil, Bool.and_true,
      store.satisfies_compare _ _ (by decide), Row.value_eq (table.keyed other)]
  unfold Task.insertStamped Model.stampCreation
  refine Task.Answers.bind (Q := fun row s' =>
    row = values.stamped s.clock.text ∧ s'.engine = s.engine)
    (Task.Answers.bind Task.Answers.stamp ?_) ?_
  · rintro stamp s' ⟨rfl, same⟩
    exact Task.Answers.pure ⟨rfl, same⟩
  rintro row s' ⟨rfl, same⟩
  refine Task.Answers.bind (table.insert (holds.congr same) keyless room made next) ?_
  rintro keys s' ⟨rfl, after⟩
  refine Task.Answers.bind (table.selectFirst after decides) ?_
  rintro found s'' ⟨rfl, sameEngine⟩
  cases first : (items ++ [item]).find? fun other =>
      (Value.int (table.id other)).looseEq (.int (last + 1)) with
  | none =>
    refine absurd ?_ (List.find?_eq_none.1 first item (by simp))
    rw [next]
    exact Value.looseEq_int_self _
  | some answer =>
    refine Task.Answers.pure ⟨after.congr sameEngine, fun small => ?_⟩
    rw [holds.find?_next next small] at first
    rw [Option.some.inj first]

/-- An update changes the records that pass and answers their number. -/
theorem update {values : Row} (change : ι → ι) (holds : table.Holds s.engine db.handle items last)
    (decides : table.Decides conditions items test)
    (same : ∀ item, table.id (change item) = table.id item)
    (written : ∀ item, (table.row item).merge values = table.row (change item)) :
    (Task.update { table := table.name, values, conditions }).Answers db s fun answer s' =>
      answer = items.countP test ∧ table.Holds s'.engine db.handle
        (items.map fun item => if test item then change item else item) last := by
  obtain ⟨store, answered, after⟩ := holds.shown.update values conditions
  refine Task.Answers.bind (Task.Answers.write answered) ?_
  rintro answer s' ⟨rfl, sameEngine⟩
  refine Task.Answers.pure ⟨?_, ?_⟩
  · rw [Store.WriteAnswer.count, List.countP_map]
    exact List.countP_congr fun item mem => by rw [Function.comp_apply, decides store item mem]
  · refine holds.map (fun item => ?_) ?_
    · split
      · exact same item
      · rfl
    · rw [sameEngine]
      have changed : ((items.map table.row).map fun row =>
          if store.selects table.name conditions row then row.merge values else row) =
            (items.map fun item => if test item then change item else item).map table.row := by
        rw [List.map_map, List.map_map]
        refine List.map_congr_left fun item mem => ?_
        rw [Function.comp_apply, Function.comp_apply, decides store item mem, written]
        split <;> rfl
      rwa [changed] at after

/-- A delete removes the records that pass and answers their number. -/
theorem delete (holds : table.Holds s.engine db.handle items last)
    (decides : table.Decides conditions items test) :
    (Task.delete { table := table.name, conditions }).Answers db s fun answer s' =>
      answer = items.countP test ∧
        table.Holds s'.engine db.handle (items.filter fun item => !test item) last := by
  obtain ⟨store, answered, after⟩ := holds.shown.delete conditions
  refine Task.Answers.bind (Task.Answers.write answered) ?_
  rintro answer s' ⟨rfl, sameEngine⟩
  refine Task.Answers.pure ⟨?_, holds.sublist List.filter_sublist ?_⟩
  · rw [Store.WriteAnswer.count, List.countP_map]
    exact List.countP_congr fun item mem => by rw [Function.comp_apply, decides store item mem]
  · rw [sameEngine]
    have kept : ((items.map table.row).filter fun row =>
        !store.selects table.name conditions row) =
          (items.filter fun item => !test item).map table.row := by
      rw [List.filter_map]
      refine congrArg (List.map table.row) (List.filter_congr fun item mem => ?_)
      rw [Function.comp_apply, decides store item mem]
    rwa [kept] at after

end

end Table

/-! ### Tables of owned rows -/

/-- Who rows of a shared table belong to: the table of an entity and a key in it. -/
structure Owner where
  type : String
  id : Int
deriving DecidableEq, Repr

/-- The owner that an instance is; one without a key owns nothing. -/
def Instance.owner? (i : Instance) : Option Owner :=
  i.id?.map fun id => ⟨i.model.ownerType, id⟩

/-- The rows of a saved instance in a shared table. -/
theorem OwnedRows.ofInstance_ok {i : Instance} {owner : Owner} (saved : i.owner? = some owner)
    (table idColumn typeColumn : String) :
    OwnedRows.ofInstance i table idColumn typeColumn =
      .ok ⟨table, idColumn, typeColumn, owner.id, owner.type⟩ := by
  obtain ⟨id, hid, rfl⟩ := Option.map_eq_some_iff.1 saved
  unfold OwnedRows.ofInstance Instance.requireId
  rw [hid]
  rfl

/-- A saved instance has rows in a shared table when its entity has the trait. -/
theorem OwnedRows.traited_eq_ok {α : Type} {i : Instance} {owner : Owner}
    (saved : i.owner? = some owner) {trait : Bool} {name table idColumn typeColumn : String}
    (make : OwnedRows → α) (a : α) :
    (do
      i.model.requireTrait trait name
      return make (← OwnedRows.ofInstance i table idColumn typeColumn) : Except Error α) = .ok a ↔
      trait = true ∧ a = make ⟨table, idColumn, typeColumn, owner.id, owner.type⟩ := by
  rw [OwnedRows.ofInstance_ok saved]
  cases trait with
  | true => exact ⟨fun h => ⟨rfl, (Except.ok.inj h).symm⟩, fun h => congrArg Except.ok h.2.symm⟩
  | false => exact ⟨nofun, fun h => nomatch h.1⟩

/-- A table of records each of which names its owner in two columns. -/
structure OwnedTable (ι : Type) extends Table ι where
  idColumn : String
  typeColumn : String
  owner : ι → Owner
  plainId : '.' ∉ idColumn.toList
  plainType : '.' ∉ typeColumn.toList
  ownedId : ∀ item, (row item).get? idColumn = some (.int (owner item).id)
  ownedType : ∀ item, (row item).get? typeColumn = some (.text (owner item).type)

namespace OwnedTable

variable {ι : Type} (table : OwnedTable ι) {owner : Owner} {items : List ι}

/-- The rows of an owner. -/
def rows (owner : Owner) : OwnedRows :=
  ⟨table.name, table.idColumn, table.typeColumn, owner.id, owner.type⟩

/-- Comparing both columns is comparing owners, as long as the key of the stored one has no more
than 53 bits. -/
theorem satisfies_owner (store : Store) {item : ι}
    (small : Binary64.IsSmall (table.owner item).id) :
    (store.satisfies (.ofRow table.name (table.row item))
        (.compare table.idColumn .eq (.int owner.id)) &&
      store.satisfies (.ofRow table.name (table.row item))
        (.compare table.typeColumn .eq (.text owner.type))) = (table.owner item == owner) := by
  rw [store.satisfies_compare _ _ table.plainId, store.satisfies_compare _ _ table.plainType,
    Row.value_eq (table.ownedId item), Row.value_eq (table.ownedType item),
    Value.looseEq_int_small small, Value.looseEq_text]
  obtain ⟨type, id⟩ := owner
  obtain ⟨type', id'⟩ := table.owner item
  rw [Bool.eq_iff_iff]
  simp only [Bool.and_eq_true, decide_eq_true_eq, beq_iff_eq, Owner.mk.injEq]
  exact and_comm

/-- The conditions on an owner select the records of that owner. -/
theorem decides_conditions (small : ∀ item ∈ items, Binary64.IsSmall (table.owner item).id)
    (owner : Owner) :
    table.Decides (table.rows owner).conditions items fun item => table.owner item == owner := by
  refine Table.decides_all rfl ?_
  intro store item mem
  rw [← table.satisfies_owner store (small item mem)]
  simp [OwnedRows.conditions, rows]

/-- A further comparison is made of the records of the owner. -/
theorem decides_filter (small : ∀ item ∈ items, Binary64.IsSmall (table.owner item).id)
    (owner : Owner) {column : String} (plain : '.' ∉ column.toList) (v : Value) :
    table.Decides ((table.rows owner).conditions.also (.compare column .eq v)) items fun item =>
      table.owner item == owner && ((table.row item).value column).looseEq v := by
  refine Table.decides_all rfl ?_
  intro store item mem
  rw [← table.satisfies_owner store (small item mem),
    ← store.satisfies_compare table.name _ plain]
  simp [OwnedRows.conditions, rows, ConditionTree.also, Bool.and_assoc]

/-- The conditions on one row of an owner select the record of that key, if it is the owner's. -/
theorem decides_key (small : ∀ item ∈ items, Binary64.IsSmall (table.owner item).id)
    (smallKeys : ∀ item ∈ items, Binary64.IsSmall (table.id item)) (owner : Owner) (id : Int) :
    table.Decides ((table.rows owner).keyConditions id) items fun item =>
      table.id item == id && table.owner item == owner := by
  refine Table.decides_all rfl ?_
  intro store item mem
  rw [← table.satisfies_owner store (small item mem)]
  have key : store.satisfies (.ofRow table.name (table.row item)) (.compare "id" .eq (.int id)) =
      (table.id item == id) := by
    rw [store.satisfies_compare _ _ (by decide), Row.value_eq (table.keyed item),
      Value.looseEq_int_small (smallKeys item mem)]
    rfl
  rw [← key]
  simp [OwnedRows.keyConditions, OwnedRows.conditions, rows]

end OwnedTable

end EntityStore
