import EntityStore.Proofs.Run
import Mathlib.Data.List.Nodup

/-!
# Keys of inserted rows

An insertion checks the keys that its rows carry before it gives keys to the others, one row after
the other. The keys of a table stay distinct as long as no row is given a key that a later row of the
same insertion carries (`Store.overtakes`); main result: `Store.distinctKeys_iff`.
-/

namespace EntityStore

namespace Store

theorem keyOf?_fits {column : String} {row : Row} {key : Int} (h : keyOf? column row = some key) :
    fitsInt64 key = true := by
  unfold keyOf? at h
  obtain ⟨value, _, isKey⟩ := Option.bind_eq_some_iff.1 h
  unfold Value.asInt64? at isKey
  split at isKey
  · next n =>
    split at isKey
    · next fits =>
      cases isKey
      exact fits
    · cases isKey
  · cases isKey

/-- A row that is given a key carries it. -/
theorem keyOf?_insert {column : String} {key : Int} (fits : fitsInt64 key = true) (row : Row) :
    keyOf? column (row.insert column (.int key)) = some key := by
  unfold keyOf?
  rw [Row.get?_insert_self]
  simp [Value.int, Value.asInt64?, fits]

/-- The key of a row is the one that it carries, or the next of the sequence. -/
theorem keyFor_eq_ok {column : String} {last key : Int} {row : Row}
    (h : keyFor column last row = .ok key) :
    keyOf? column row = some key ∨ keyOf? column row = none ∧ key = last + 1 := by
  unfold keyFor at h
  split at h
  · next carried hcarried =>
    cases h
    exact Or.inl hcarried
  · next hnone =>
    unfold nextKey at h
    split at h
    · cases h
      exact Or.inr ⟨hnone, rfl⟩
    · cases h

theorem keyFor_fits {column : String} {last key : Int} {row : Row}
    (h : keyFor column last row = .ok key) : fitsInt64 key = true := by
  unfold keyFor at h
  split at h
  · next carried hcarried =>
    cases h
    exact keyOf?_fits hcarried
  · unfold nextKey at h
    split at h
    · next fits =>
      cases h
      exact fits
    · cases h

/-- The keys of a list of rows are given to its first row and then to the rest. -/
theorem assignKeys_cons {column : String} {last final : Int} {row : Row} {rest : List Row}
    {keyed : List (Int × Row)} (h : assignKeys column last (row :: rest) = .ok (keyed, final)) :
    ∃ key done, keyFor column last row = .ok key ∧
      assignKeys column (max last key) rest = .ok (done, final) ∧
      keyed = (key, row.insert column (.int key)) :: done := by
  unfold assignKeys at h
  cases given : keyFor column last row with
  | error e => rw [given] at h; cases h
  | ok key =>
    rw [given] at h
    cases assigned : assignKeys column (max last key) rest with
    | error e => simp [bind, Except.bind, assigned] at h
    | ok result =>
      obtain ⟨done, final'⟩ := result
      simp only [bind, Except.bind, assigned, Except.ok.injEq, Prod.mk.injEq] at h
      obtain ⟨rfl, rfl⟩ := h
      exact ⟨key, done, rfl, assigned, rfl⟩

/-- Every assigned row carries its key, and no key is past the last one. -/
theorem assignKeys_carries {column : String} {rows : List Row} {last final : Int}
    {keyed : List (Int × Row)} (h : assignKeys column last rows = .ok (keyed, final)) :
    last ≤ final ∧
      ∀ pair ∈ keyed, keyOf? column pair.2 = some pair.1 ∧ pair.1 ≤ final := by
  induction rows generalizing last keyed with
  | nil =>
    cases h
    exact ⟨Int.le_refl _, fun _ hp => nomatch hp⟩
  | cons row rest ih =>
    obtain ⟨key, done, given, assigned, rfl⟩ := assignKeys_cons h
    obtain ⟨grown, carried⟩ := ih assigned
    refine ⟨Int.le_trans (Int.le_max_left _ _) grown, ?_⟩
    intro pair hpair
    rcases List.mem_cons.1 hpair with rfl | hpair
    · exact ⟨keyOf?_insert (keyFor_fits given) row, Int.le_trans (Int.le_max_right _ _) grown⟩
    · exact carried pair hpair

/-- The keys of the assigned rows are the assigned keys. -/
theorem keys_assigned {column : String} {rows : List Row} {last final : Int}
    {keyed : List (Int × Row)} (h : assignKeys column last rows = .ok (keyed, final)) :
    (keyed.map (·.2)).filterMap (keyOf? column) = keyed.map (·.1) := by
  rw [List.filterMap_map, ← List.filterMap_eq_map]
  apply List.filterMap_congr
  intro pair hpair
  exact ((assignKeys_carries h).2 pair hpair).1

/-- The keys that rows carry are among the assigned ones. -/
theorem carried_subset_assigned {column : String} {rows : List Row} {last final : Int}
    {keyed : List (Int × Row)} (h : assignKeys column last rows = .ok (keyed, final)) :
    rows.filterMap (keyOf? column) ⊆ keyed.map (·.1) := by
  induction rows generalizing last keyed with
  | nil => exact List.nil_subset _
  | cons row rest ih =>
    obtain ⟨key, done, given, assigned, rfl⟩ := assignKeys_cons h
    rw [List.map_cons]
    rcases keyFor_eq_ok given with carried | ⟨keyless, _⟩
    · rw [List.filterMap_cons_some carried]
      exact List.cons_subset_cons _ (ih assigned)
    · rw [List.filterMap_cons_none keyless]
      exact List.Subset.trans (ih assigned) (List.subset_cons_self _ _)

/-- Some row without a key is given one that a later row carries. -/
def overtakes (column : String) (last : Int) : List Row → Bool
  | [] => false
  | row :: rest =>
    match keyOf? column row with
    | some key => overtakes column (max last key) rest
    | none =>
      (rest.filterMap (keyOf? column)).contains (last + 1) || overtakes column (last + 1) rest

/-- Keys that are fresh where they are carried are all distinct exactly when no row overtakes. -/
theorem nodup_assigned_iff {column : String} {rows : List Row} {last final : Int}
    {keyed : List (Int × Row)} {used : List Int}
    (h : assignKeys column last rows = .ok (keyed, final))
    (distinct : used.Nodup) (below : ∀ key ∈ used, key ≤ last)
    (fresh : (used ++ rows.filterMap (keyOf? column)).Nodup) :
    (used ++ keyed.map (·.1)).Nodup ↔ overtakes column last rows = false := by
  induction rows generalizing last keyed used with
  | nil =>
    cases h
    simpa [overtakes] using distinct
  | cons row rest ih =>
    obtain ⟨key, done, given, assigned, rfl⟩ := assignKeys_cons h
    have within : ∀ k ∈ used ++ [key], k ≤ max last key := by
      intro k hk
      rcases List.mem_append.1 hk with hk | hk
      · exact Int.le_trans (below k hk) (Int.le_max_left _ _)
      · rw [List.mem_singleton.1 hk]
        exact Int.le_max_right _ _
    have regrouped : used ++ key :: done.map (·.1) = (used ++ [key]) ++ done.map (·.1) := by simp
    rw [List.map_cons, regrouped]
    rcases keyFor_eq_ok given with carried | ⟨keyless, rfl⟩
    · rw [List.filterMap_cons_some carried, List.append_cons] at fresh
      rw [overtakes, carried]
      exact ih assigned fresh.of_append_left within fresh
    · rw [List.filterMap_cons_none keyless] at fresh
      have later : max last (last + 1) = last + 1 := by omega
      rw [later] at assigned within
      rw [overtakes, keyless]
      simp only [Bool.or_eq_false_iff]
      have unused : last + 1 ∉ used := fun hk => by have := below _ hk; omega
      have extended : (used ++ [last + 1]).Nodup := by
        rw [← List.concat_eq_append]
        exact distinct.concat unused
      by_cases taken : last + 1 ∈ rest.filterMap (keyOf? column)
      · -- The key is given now and again to the row that carries it.
        have twice := carried_subset_assigned assigned taken
        constructor
        · intro nodup
          have apart := List.disjoint_of_nodup_append nodup
          exact absurd twice (apart (List.mem_append_right _ List.mem_cons_self))
        · rintro ⟨untaken, _⟩
          rw [List.contains_iff_mem.2 taken] at untaken
          cases untaken
      · have freshRest : (used ++ [last + 1] ++ rest.filterMap (keyOf? column)).Nodup := by
          rw [List.append_assoc, List.singleton_append, List.nodup_middle, List.nodup_cons]
          refine ⟨?_, fresh⟩
          intro hk
          rcases List.mem_append.1 hk with hk | hk
          · exact unused hk
          · exact taken hk
        have untaken : (rest.filterMap (keyOf? column)).contains (last + 1) = false := by
          rw [Bool.eq_false_iff]
          exact fun h => taken (List.contains_iff_mem.1 h)
        rw [ih assigned extended within freshRest, untaken]
        simp

/-- No key is taken when the keys are distinct and none of them is among those before. -/
theorem firstTaken_eq_none {taken keys : List Int} :
    firstTaken taken keys = none ↔ keys.Nodup ∧ ∀ key ∈ keys, key ∉ taken := by
  induction keys generalizing taken with
  | nil => simp [firstTaken]
  | cons key rest ih =>
    unfold firstTaken
    by_cases present : key ∈ taken
    · simp [present]
    · rw [if_neg (by simpa using present), ih, List.nodup_cons]
      constructor
      · rintro ⟨distinct, fresh⟩
        refine ⟨⟨fun again => fresh key again List.mem_cons_self, distinct⟩, ?_⟩
        intro k hk
        rcases List.mem_cons.1 hk with rfl | hk
        · exact present
        · exact fun taken => fresh k hk (List.mem_cons_of_mem _ taken)
      · rintro ⟨⟨once, distinct⟩, fresh⟩
        refine ⟨distinct, ?_⟩
        intro k hk again
        rcases List.mem_cons.1 again with rfl | again
        · exact once hk
        · exact fresh k (List.mem_cons_of_mem _ hk) again

/-- Every row of the table has an integer in the column that the sequence has reached. -/
structure Keyed (store : Store) (table column : String) : Prop where
  carried : ∀ row ∈ store.rows table, (keyOf? column row).isSome = true
  reached : ∀ key ∈ store.keys table column, key ≤ store.sequence table

/-- Every row of the table has an integer in the column, and no two rows have the same. -/
structure DistinctKeys (store : Store) (table column : String) : Prop where
  carried : ∀ row ∈ store.rows table, (keyOf? column row).isSome = true
  distinct : (store.keys table column).Nodup

end Store

/-- An insertion into the table draws its keys in the column, and an update of the table does not set
the column. -/
def Write.KeepsKey (table column : String) : Write → Prop
  | .insert statement => statement.table = table → statement.returning = column
  | .update statement => statement.table = table → statement.values.get? column = none
  | .delete _ => True

namespace Store

variable {store : Store} {table column : String}

/-- The keys of the table after an insertion are those before it and the assigned ones. -/
theorem keys_appended {rows : List Row} {keyed : List (Int × Row)} {start last : Int}
    (assigned : assignKeys column start rows = .ok (keyed, last)) :
    (store.appended table keyed last).keys table column =
      store.keys table column ++ keyed.map (·.1) := by
  unfold keys
  rw [rows_appended_self, List.filterMap_append, keys_assigned assigned]

/-- An update that does not set the column keeps its keys, row by row. -/
theorem keyOf?_merge {values row : Row} (unset : values.get? column = none) :
    keyOf? column (row.merge values) = keyOf? column row := by
  unfold keyOf?
  rw [Row.get?_merge, unset, Option.none_or]

theorem keyOf?_updated (statement : Update) (unset : statement.values.get? column = none)
    (row : Row) :
    keyOf? column (if store.selects statement.table statement.conditions row then
      row.merge statement.values else row) = keyOf? column row := by
  split
  · exact keyOf?_merge unset
  · rfl

/-- An update that does not set the column changes no key. -/
theorem keys_update (statement : Update) (unset : statement.values.get? column = none) :
    (store.update statement).2.keys statement.table column =
      store.keys statement.table column := by
  unfold keys update
  rw [rows_setRows_self, List.filterMap_map]
  apply List.filterMap_congr
  intro row _
  exact keyOf?_updated statement unset row

/-- A delete leaves some of the keys, in their order. -/
theorem keys_delete (statement : Delete) :
    ((store.delete statement).2.keys statement.table column).Sublist
      (store.keys statement.table column) := by
  unfold keys delete
  rw [rows_setRows_self]
  exact List.filter_sublist.filterMap _

/-- Appended rows carry their keys, and the sequence reaches them. -/
theorem Keyed.appended {rows : List Row} {assignedRows : List (Int × Row)} {last : Int}
    (h : store.Keyed table column)
    (assigned : assignKeys column (store.sequence table) rows = .ok (assignedRows, last)) :
    (store.appended table assignedRows last).Keyed table column := by
  obtain ⟨grown, carries⟩ := assignKeys_carries assigned
  refine ⟨?_, ?_⟩
  · rw [rows_appended_self]
    intro row hrow
    rcases List.mem_append.1 hrow with hrow | hrow
    · exact h.carried row hrow
    · obtain ⟨pair, hpair, rfl⟩ := List.mem_map.1 hrow
      rw [(carries pair hpair).1]
      rfl
  · rw [keys_appended assigned, sequence_appended_self]
    intro key hkey
    rcases List.mem_append.1 hkey with hkey | hkey
    · exact Int.le_trans (h.reached key hkey) grown
    · obtain ⟨pair, hpair, rfl⟩ := List.mem_map.1 hkey
      exact (carries pair hpair).2

theorem Keyed.update {statement : Update} (h : store.Keyed statement.table column)
    (unset : statement.values.get? column = none) :
    (store.update statement).2.Keyed statement.table column := by
  refine ⟨?_, ?_⟩
  · intro row hrow
    unfold Store.update at hrow
    rw [rows_setRows_self] at hrow
    obtain ⟨old, hold, rfl⟩ := List.mem_map.1 hrow
    rw [keyOf?_updated statement unset old]
    exact h.carried old hold
  · rw [keys_update statement unset]
    exact h.reached

theorem Keyed.delete {statement : Delete} (h : store.Keyed statement.table column) :
    (store.delete statement).2.Keyed statement.table column := by
  refine ⟨?_, fun key hkey => h.reached key ((keys_delete statement).subset hkey)⟩
  intro row hrow
  unfold Store.delete at hrow
  rw [rows_setRows_self] at hrow
  exact h.carried row (List.mem_filter.1 hrow).1

/-- Free keys that are appended to distinct ones are distinct exactly when no row overtakes. -/
theorem nodup_appended_iff {rows : List Row} {assignedRows : List (Int × Row)} {last : Int}
    (h : store.Keyed table column) (distinct : (store.keys table column).Nodup)
    (free : firstTaken (store.keys table column) (rows.filterMap (keyOf? column)) = none)
    (assigned : assignKeys column (store.sequence table) rows = .ok (assignedRows, last)) :
    ((store.appended table assignedRows last).keys table column).Nodup ↔
      overtakes column (store.sequence table) rows = false := by
  obtain ⟨explicit, unused⟩ := firstTaken_eq_none.1 free
  have fresh : (store.keys table column ++ rows.filterMap (keyOf? column)).Nodup :=
    List.nodup_append'.2 ⟨distinct, explicit, fun key there again => unused key again there⟩
  rw [keys_appended assigned]
  exact nodup_assigned_iff assigned distinct h.reached fresh

/-- What a write leaves of a keyed table: its rows stay keyed, and their keys stay distinct unless it
is an insertion that overtakes. -/
theorem write_keyed {changed : Store} {w : Write} {answer : WriteAnswer}
    (h : store.write w = .ok (answer, changed)) (keeps : w.KeepsKey table column)
    (keyed : store.Keyed table column) :
    changed.Keyed table column ∧ ((store.keys table column).Nodup →
      ((changed.keys table column).Nodup ↔ ∀ statement, w = .insert statement →
        statement.table = table →
          overtakes column (store.sequence table) statement.rows = false)) := by
  by_cases own : table = w.target
  · cases w with
    | insert statement =>
      change table = statement.table at own
      subst own
      obtain rfl := keeps rfl
      obtain ⟨assignedRows, last, free, assigned, _, rfl⟩ := write_insert h
      refine ⟨keyed.appended assigned, fun distinct => ?_⟩
      rw [nodup_appended_iff keyed distinct free assigned]
      constructor
      · rintro inOrder _ same _
        cases same
        exact inOrder
      · exact fun inOrder => inOrder statement rfl rfl
    | update statement =>
      change table = statement.table at own
      subst own
      obtain rfl := write_update h
      refine ⟨keyed.update (keeps rfl), fun distinct => ?_⟩
      rw [keys_update statement (keeps rfl)]
      exact ⟨fun _ _ other => (nomatch other), fun _ => distinct⟩
    | delete statement =>
      change table = statement.table at own
      subst own
      obtain rfl := write_delete h
      refine ⟨keyed.delete, fun distinct => ?_⟩
      exact ⟨fun _ _ other => (nomatch other), fun _ => distinct.sublist (keys_delete statement)⟩
  · obtain ⟨sameRows, sameSequence⟩ := write_frame h own
    have sameKeys : changed.keys table column = store.keys table column := by
      unfold keys
      rw [sameRows]
    refine ⟨⟨?_, ?_⟩, fun distinct => ?_⟩
    · rw [sameRows]
      exact keyed.carried
    · rw [sameKeys, sameSequence]
      exact keyed.reached
    · rw [sameKeys]
      refine ⟨?_, fun _ => distinct⟩
      rintro _ statement rfl elsewhere
      exact absurd elsewhere.symm own

/-- The store that the first statements of a list reach, run directly one after the other. -/
def reached (statements : List Statement) (n : Nat) : Store :=
  (Engine.run {} ((statements.take n).map (.run .shared))).shared

theorem reached_succ (statements : List Statement) (n : Nat) :
    reached statements (n + 1) =
      (statements[n]?.toList).foldl after (reached statements n) := by
  unfold reached
  rw [List.take_add_one, List.map_append, Engine.run_append]
  cases statements[n]? with
  | none => rfl
  | some statement => exact Engine.shared_step _ statement

theorem after_of_ok {w : Write} {answer : WriteAnswer} {changed : Store}
    (h : store.write w = .ok (answer, changed)) : store.after (.write w) = changed := by
  simp only [after, h]

theorem after_of_error {w : Write} {e : Error} (h : store.write w = .error e) :
    store.after (.write w) = store := by
  simp only [after, h]

/-- The insertion of the statement is accepted by the store. -/
def accepts (store : Store) (statement : Insert) : Bool :=
  (store.insert statement).isOk

theorem accepts_iff {statement : Insert} :
    store.accepts statement = true ↔ ∃ result, store.write (.insert statement) = .ok result := by
  unfold accepts write
  cases ran : store.insert statement with
  | error e => simp [ran, Except.isOk, Except.toBool, Except.map]
  | ok result => simp [ran, Except.isOk, Except.toBool, Except.map]

/-- What a statement leaves of a keyed table. -/
theorem after_keyed {s : Statement} (keeps : ∀ w, s = .write w → w.KeepsKey table column)
    (keyed : store.Keyed table column) :
    (store.after s).Keyed table column ∧ ((store.keys table column).Nodup →
      (((store.after s).keys table column).Nodup ↔ ∀ statement, s = .write (.insert statement) →
        statement.table = table → store.accepts statement = true →
          overtakes column (store.sequence table) statement.rows = false)) := by
  cases s with
  | select statement =>
    exact ⟨keyed, fun distinct => ⟨fun _ _ other => (nomatch other), fun _ => distinct⟩⟩
  | write w =>
    cases ran : store.write w with
    | error e =>
      rw [after_of_error ran]
      refine ⟨keyed, fun distinct => ⟨?_, fun _ => distinct⟩⟩
      rintro _ statement same _ accepted
      cases same
      obtain ⟨result, ok⟩ := accepts_iff.1 accepted
      rw [ran] at ok
      cases ok
    | ok result =>
      obtain ⟨answer, changed⟩ := result
      rw [after_of_ok ran]
      obtain ⟨keyedAfter, distinctAfter⟩ := write_keyed ran (keeps w rfl) keyed
      refine ⟨keyedAfter, fun distinct => (distinctAfter distinct).trans ?_⟩
      constructor
      · rintro inOrder statement same own _
        cases same
        exact inOrder statement rfl own
      · rintro inOrder statement rfl own
        exact inOrder statement rfl own (accepts_iff.2 ⟨_, ran⟩)

variable {statements : List Statement}

/-- In a run that keeps the key column of a table, the table is keyed all along. -/
theorem keyed_reached (keeps : ∀ w, Statement.write w ∈ statements → w.KeepsKey table column)
    (n : Nat) : (reached statements n).Keyed table column := by
  induction n with
  | zero => exact ⟨fun _ hrow => (nomatch hrow), fun _ hkey => (nomatch hkey)⟩
  | succ n ih =>
    rw [reached_succ]
    cases next : statements[n]? with
    | none => exact ih
    | some s =>
      have member := List.mem_of_getElem? next
      exact (after_keyed (fun w same => keeps w (same ▸ member)) ih).1

/-- A statement of the run keeps distinct keys distinct unless it is an insertion that overtakes. -/
theorem distinct_reached_succ
    (keeps : ∀ w, Statement.write w ∈ statements → w.KeepsKey table column) {n : Nat}
    (distinct : ((reached statements n).keys table column).Nodup) :
    ((reached statements (n + 1)).keys table column).Nodup ↔
      ∀ statement, statements[n]? = some (.write (.insert statement)) →
        statement.table = table → (reached statements n).accepts statement = true →
          overtakes column ((reached statements n).sequence table) statement.rows = false := by
  rw [reached_succ]
  cases next : statements[n]? with
  | none => exact ⟨fun _ _ other => (nomatch other), fun _ => distinct⟩
  | some s =>
    have member := List.mem_of_getElem? next
    have step := (after_keyed (fun w same => keeps w (same ▸ member))
      (keyed_reached keeps n)).2 distinct
    simp only [Option.toList_some, List.foldl_cons, List.foldl_nil, Option.some.injEq]
    exact step

/-- **Distinct keys.** In a run whose insertions into a table draw their keys in one column, and whose
updates of the table leave that column alone, every reached table has distinct integers there exactly
when no accepted insertion gives a row a key that a later one of its rows carries. -/
theorem distinctKeys_iff (table column : String) (statements : List Statement)
    (keeps : ∀ w, Statement.write w ∈ statements → w.KeepsKey table column) :
    (∀ n, (reached statements n).DistinctKeys table column) ↔
      ∀ n statement, statements[n]? = some (.write (.insert statement)) →
        statement.table = table → (reached statements n).accepts statement = true →
          overtakes column ((reached statements n).sequence table) statement.rows = false := by
  constructor
  · intro allDistinct n
    exact (distinct_reached_succ keeps (allDistinct n).distinct).1 (allDistinct (n + 1)).distinct
  · intro inOrder n
    refine ⟨(keyed_reached keeps n).carried, ?_⟩
    induction n with
    | zero => exact List.nodup_nil
    | succ n ih => exact (distinct_reached_succ keeps ih).2 (inOrder n)

/-- One insertion of a row without a key before a row with the key 1. -/
def overtaken : List Statement :=
  [.write (.insert { table := "t", rows := [.empty, .ofFields [("id", .int 1)]] })]

/-- The first key of an empty table is given although the second row carries it. -/
theorem not_distinctKeys_overtaken :
    (∀ w, Statement.write w ∈ overtaken → w.KeepsKey "t" "id") ∧
    ¬ ∀ n, (reached overtaken n).DistinctKeys "t" "id" := by
  constructor
  · intro w member
    cases List.mem_singleton.1 member
    exact fun _ => rfl
  · intro allDistinct
    have twice : (reached overtaken 1).keys "t" "id" = [1, 1] := by decide
    have distinct := (allDistinct 1).distinct
    rw [twice] at distinct
    exact absurd distinct (by decide)

/-- Insertions that mix rows with and without keys, an update and a delete. -/
def mixed : List Statement :=
  [.write (.insert { table := "t", rows := [.ofFields [("id", .int 5)], .empty] }),
    .write (.update { table := "t", values := .ofFields [("name", .text "a")] }),
    .write (.delete { table := "t", conditions := [(.and, .isNull "name")] }),
    .write (.insert { table := "t", rows := [.empty, .ofFields [("id", .int 9)], .empty] })]

theorem keepsKey_mixed : ∀ w, Statement.write w ∈ mixed → w.KeepsKey "t" "id" := by
  intro w member
  simp only [mixed, List.mem_cons, Statement.write.injEq, List.not_mem_nil, or_false] at member
  rcases member with rfl | rfl | rfl | rfl
  · exact fun _ => rfl
  · exact fun _ => rfl
  · trivial
  · exact fun _ => rfl

/-- Keys that are carried before the rows without keys, or past the sequence, are never given. -/
theorem distinctKeys_mixed :
    (∀ w, Statement.write w ∈ mixed → w.KeepsKey "t" "id") ∧
    ∀ n, (reached mixed n).DistinctKeys "t" "id" := by
  refine ⟨keepsKey_mixed, (distinctKeys_iff "t" "id" mixed keepsKey_mixed).2 ?_⟩
  intro n statement next _ _
  rcases n with _ | _ | _ | _ | n
  · cases next
    decide
  · cases next
  · cases next
  · cases next
    decide
  · cases next

end Store

end EntityStore
