import EntityStore.Proofs.Commit

/-!
# Keys that are drawn

Rows without keys are given the numbers after the last one of the sequence, in ascending order
(`Store.ascends_assigned`). Rows that carry their keys keep them and leave a sequence alone that has
reached them, and are accepted wherever their keys are free (`Store.replay_settled`).
-/

namespace EntityStore

/-- The keys ascend strictly, from above the first number up to the last. -/
structure Ascends (first last : Int) (keys : List Int) : Prop where
  grows : first ≤ last
  ascending : keys.Pairwise (· < ·)
  within : ∀ key ∈ keys, first < key ∧ key ≤ last

namespace Ascends

variable {first middle last : Int} {keys later : List Int}

theorem nil (grows : first ≤ last) : Ascends first last [] :=
  ⟨grows, List.Pairwise.nil, fun _ h => nomatch h⟩

theorem append (start : Ascends first middle keys) (goesOn : Ascends middle last later) :
    Ascends first last (keys ++ later) := by
  refine ⟨Int.le_trans start.grows goesOn.grows, ?_, ?_⟩
  · refine List.pairwise_append.2 ⟨start.ascending, goesOn.ascending, ?_⟩
    intro a ha b hb
    have below := (start.within a ha).2
    have above := (goesOn.within b hb).1
    omega
  · intro key hkey
    rcases List.mem_append.1 hkey with hkey | hkey
    · obtain ⟨above, below⟩ := start.within key hkey
      exact ⟨above, Int.le_trans below goesOn.grows⟩
    · obtain ⟨above, below⟩ := goesOn.within key hkey
      exact ⟨Int.lt_of_le_of_lt start.grows above, below⟩

theorem nodup (h : Ascends first last keys) : keys.Nodup :=
  h.ascending.imp fun lt => Int.ne_of_lt lt

end Ascends

/-- The rows of an insertion with the keys that they are given. -/
def Insert.keyedRows (statement : Insert) (keys : List Int) : List Row :=
  statement.rows.zipWith (fun row key => row.insert statement.returning (.int key)) keys

/-- The keys that the rows of a write bring into a column of a table. -/
def Write.carried (table column : String) : Write → List Int
  | .insert statement =>
    if statement.table = table then statement.rows.filterMap (Store.keyOf? column) else []
  | _ => []

/-- Every table has one column of keys: an insertion draws all its keys there, and an update leaves
it alone. -/
def Write.DrawsKeys (columns : String → String) : Write → Prop
  | .insert statement =>
    statement.returning = columns statement.table ∧
      ∀ row ∈ statement.rows, Store.keyOf? statement.returning row = none
  | .update statement => statement.values.get? (columns statement.table) = none
  | .delete _ => True

/-- An insertion whose keys are fixed in the column of its table, or a change that leaves the column
alone. -/
structure Write.Settled (columns : String → String) (w : Write) : Prop where
  carries : w.CarriesKeys
  keeps : ∀ table, w.KeepsKey table (columns table)

theorem Write.DrawsKeys.keeps {columns : String → String} {w : Write} (draws : w.DrawsKeys columns)
    (table : String) : w.KeepsKey table (columns table) := by
  cases w with
  | insert statement =>
    rintro rfl
    exact draws.1
  | update statement =>
    rintro rfl
    exact draws
  | delete statement => trivial

namespace Store

/-- A row that carries a key is not changed by being given it. -/
theorem insert_keyOf? {column : String} {row : Row} {key : Int} (h : keyOf? column row = some key) :
    row.insert column (.int key) = row := by
  obtain ⟨value, found, isKey⟩ := Option.bind_eq_some_iff.1 h
  have same : value = .int key := by
    unfold Value.asInt64? at isKey
    split at isKey
    · split at isKey
      · cases isKey
        rfl
      · cases isKey
    · cases isKey
  apply Row.ext_get?
  intro name
  rw [Row.get?_insert]
  split
  · next own => rw [own, found, same]
  · rfl

/-- The assigned rows are the given ones with their keys. -/
theorem assignKeys_keyedRows {statement : Insert} {last final : Int} {keyed : List (Int × Row)}
    (h : assignKeys statement.returning last statement.rows = .ok (keyed, final)) :
    keyed.map (·.2) = statement.keyedRows (keyed.map (·.1)) ∧
      keyed.length = statement.rows.length := by
  obtain ⟨table, rows, column⟩ := statement
  unfold Insert.keyedRows
  simp only at h ⊢
  induction rows generalizing last keyed with
  | nil =>
    cases h
    exact ⟨rfl, rfl⟩
  | cons row rest ih =>
    obtain ⟨key, done, _, assigned, rfl⟩ := assignKeys_cons h
    obtain ⟨same, length⟩ := ih assigned
    refine ⟨?_, by rw [List.length_cons, List.length_cons, length]⟩
    rw [List.map_cons, List.map_cons, List.zipWith_cons_cons, same]

/-- Rows without keys are given the next numbers of the sequence. -/
theorem ascends_assigned {column : String} {rows : List Row} {last final : Int}
    {keyed : List (Int × Row)} (keyless : ∀ row ∈ rows, keyOf? column row = none)
    (h : assignKeys column last rows = .ok (keyed, final)) :
    Ascends last final (keyed.map (·.1)) := by
  induction rows generalizing last keyed with
  | nil =>
    cases h
    exact .nil (Int.le_refl _)
  | cons row rest ih =>
    obtain ⟨key, done, given, assigned, rfl⟩ := assignKeys_cons h
    have next : key = last + 1 := by
      rcases keyFor_eq_ok given with carried | ⟨_, next⟩
      · rw [keyless row List.mem_cons_self] at carried
        cases carried
      · exact next
    -- The sequence goes on from the key itself, since no row carries a greater one.
    have reached : max last key = key := by omega
    rw [reached] at assigned
    have one : Ascends last key [key] := by
      refine ⟨by omega, List.pairwise_singleton _ _, ?_⟩
      intro k hk
      rw [List.mem_singleton.1 hk]
      omega
    exact one.append (ih (fun row hrow => keyless row (List.mem_cons_of_mem _ hrow)) assigned)

/-- Rows that carry their keys are left as they are, and the sequence too if it has reached them. -/
theorem assignKeys_carried {column : String} {rows : List Row} {last final : Int}
    {keyed : List (Int × Row)} (carried : ∀ row ∈ rows, (keyOf? column row).isSome = true)
    (h : assignKeys column last rows = .ok (keyed, final)) :
    keyed.map (·.2) = rows ∧ keyed.map (·.1) = rows.filterMap (keyOf? column) ∧
      ((∀ key ∈ rows.filterMap (keyOf? column), key ≤ last) → final = last) := by
  induction rows generalizing last keyed with
  | nil =>
    cases h
    exact ⟨rfl, rfl, fun _ => rfl⟩
  | cons row rest ih =>
    obtain ⟨key, done, given, assigned, rfl⟩ := assignKeys_cons h
    obtain ⟨own, hown⟩ := Option.isSome_iff_exists.1 (carried row List.mem_cons_self)
    have same : key = own := by
      rcases keyFor_eq_ok given with carries | ⟨keyless, _⟩
      · rw [hown] at carries
        exact (Option.some.inj carries).symm
      · rw [hown] at keyless
        cases keyless
    subst same
    obtain ⟨rows, keys, reached⟩ := ih (fun r hr => carried r (List.mem_cons_of_mem _ hr)) assigned
    rw [List.filterMap_cons_some hown]
    refine ⟨?_, ?_, fun below => ?_⟩
    · rw [List.map_cons, rows, insert_keyOf? hown]
    · rw [List.map_cons, keys]
    · have past : max last key = last := by
        have := below key List.mem_cons_self
        omega
      rw [past] at reached
      exact reached fun k hk => below k (List.mem_cons_of_mem _ hk)

variable {columns : String → String} {store changed : Store}

/-- What a settled write leaves in the column of a table: keys that were there and keys that it
brings. -/
theorem keys_settled {w : Write} {answer : WriteAnswer} (settled : w.Settled columns)
    (h : store.write w = .ok (answer, changed)) (table : String) :
    (changed.keys table (columns table)).Sublist
        (store.keys table (columns table) ++ w.carried table (columns table)) ∧
      ((∀ key ∈ w.carried table (columns table), key ≤ store.sequence table) →
        changed.sequence table = store.sequence table) := by
  have keeps := settled.keeps table
  by_cases own : table = w.target
  · cases w with
    | insert statement =>
      obtain rfl : table = statement.table := own
      have column : statement.returning = columns statement.table := keeps rfl
      obtain ⟨keyed, last, _, assigned, _, rfl⟩ := write_insert h
      have brings : (Write.insert statement).carried statement.table (columns statement.table) =
          statement.rows.filterMap (keyOf? statement.returning) := by
        rw [Write.carried, if_pos rfl, column]
      obtain ⟨_, keys, reached⟩ := assignKeys_carried settled.carries assigned
      rw [brings, ← column, keys_appended assigned, keys, sequence_appended_self]
      exact ⟨List.Sublist.refl _, reached⟩
    | update statement =>
      obtain rfl : table = statement.table := own
      obtain rfl := write_update h
      rw [keys_update statement (keeps rfl)]
      exact ⟨List.sublist_append_left _ _, fun _ => rfl⟩
    | delete statement =>
      obtain rfl : table = statement.table := own
      obtain rfl := write_delete h
      exact ⟨(keys_delete statement).trans (List.sublist_append_left _ _), fun _ => rfl⟩
  · obtain ⟨sameRows, sameSequence⟩ := write_frame h own
    have sameKeys : changed.keys table (columns table) = store.keys table (columns table) := by
      unfold keys
      rw [sameRows]
    rw [sameKeys]
    exact ⟨List.sublist_append_left _ _, fun _ => sameSequence⟩

/-- A settled write whose keys are free succeeds. -/
theorem write_settled {w : Write} (settled : w.Settled columns)
    (free : ∀ table, (store.keys table (columns table) ++ w.carried table (columns table)).Nodup) :
    ∃ result, store.write w = .ok result := by
  cases w with
  | insert statement =>
    have column : statement.returning = columns statement.table := settled.keeps _ rfl
    have distinct := free statement.table
    rw [Write.carried, if_pos rfl, ← column] at distinct
    obtain ⟨keyed, always⟩ := assignKeys_of_carried settled.carries
    obtain ⟨final, assigned⟩ := always (store.sequence statement.table)
    have untaken : firstTaken (store.keys statement.table statement.returning)
        (statement.rows.filterMap (keyOf? statement.returning)) = none := by
      obtain ⟨_, explicit, apart⟩ := List.nodup_append'.1 distinct
      exact firstTaken_eq_none.2 ⟨explicit, fun key hkey taken => apart taken hkey⟩
    exact ⟨_, write_insert_ok untaken assigned⟩
  | update statement => exact ⟨_, rfl⟩
  | delete statement => exact ⟨_, rfl⟩

/-- A journal of settled writes whose keys are free succeeds. It leaves keys that were there and keys
that it brings, and the sequence alone if that has reached them. -/
theorem replay_settled {journal : List Write} (settled : ∀ w ∈ journal, w.Settled columns)
    (free : ∀ table, (store.keys table (columns table) ++
      journal.flatMap (Write.carried table (columns table))).Nodup) :
    ∃ final, store.replay journal = .ok final ∧ ∀ table,
      (final.keys table (columns table)).Sublist (store.keys table (columns table) ++
        journal.flatMap (Write.carried table (columns table))) ∧
      ((∀ key ∈ journal.flatMap (Write.carried table (columns table)), key ≤ store.sequence table) →
        final.sequence table = store.sequence table) := by
  induction journal generalizing store with
  | nil =>
    refine ⟨store, rfl, fun table => ⟨?_, fun _ => rfl⟩⟩
    exact List.sublist_append_left _ _
  | cons w rest ih =>
    -- Once the first entry has run its keys are stored, so the rest meets the keys that it met before.
    have first := settled w List.mem_cons_self
    have regrouped (table : String) : store.keys table (columns table) ++
        (w :: rest).flatMap (Write.carried table (columns table)) =
          (store.keys table (columns table) ++ w.carried table (columns table)) ++
            rest.flatMap (Write.carried table (columns table)) := by
      rw [List.flatMap_cons, List.append_assoc]
    have freeFirst (table : String) :
        (store.keys table (columns table) ++ w.carried table (columns table)).Nodup := by
      have distinct := free table
      rw [regrouped] at distinct
      exact distinct.of_append_left
    obtain ⟨⟨answer, changed⟩, ran⟩ := write_settled first freeFirst
    have kept (table : String) := keys_settled first ran table
    have freeRest (table : String) : (changed.keys table (columns table) ++
        rest.flatMap (Write.carried table (columns table))).Nodup := by
      have distinct := free table
      rw [regrouped] at distinct
      exact distinct.sublist ((kept table).1.append_right _)
    obtain ⟨final, replayed, leaves⟩ :=
      ih (fun v hv => settled v (List.mem_cons_of_mem _ hv)) freeRest
    refine ⟨final, ?_, fun table => ⟨?_, fun reached => ?_⟩⟩
    · exact replay_cons.2 ⟨answer, changed, ran, replayed⟩
    · rw [regrouped]
      exact (leaves table).1.trans ((kept table).1.append_right _)
    · rw [List.flatMap_cons] at reached
      have same := (kept table).2 fun key hkey => reached key (List.mem_append_left _ hkey)
      rw [← same]
      refine (leaves table).2 fun key hkey => ?_
      rw [same]
      exact reached key (List.mem_append_right _ hkey)

end Store

end EntityStore
