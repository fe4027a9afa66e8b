import EntityStore.Proofs.Pages

/-!
# Counting what a query answers

Counting goes two ways. Groups are counted by the rows that the whole statement answers for them.
What is not grouped is counted by an aggregate, and that leaves the selection before equal rows are
dropped. So a query that keeps distinct rows only is counted with those that it drops, unless it
groups. Main result: `Query.countsAnswers_iff`; whether there is anything at all is told truly in
every case, since of equal rows one is kept.
-/

namespace EntityStore

namespace Select

/-- Keeps one more row, unless it is the same as one that was kept before. -/
def keepDistinct (done : List Row) (row : Row) : List Row :=
  if done.any (·.same row) then done else done ++ [row]

/-- No row is the same as an earlier one. -/
def AllDistinct (rows : List Row) : Prop :=
  rows.Pairwise fun row later => row.same later = false

instance (rows : List Row) : Decidable (AllDistinct rows) :=
  inferInstanceAs (Decidable (rows.Pairwise _))

variable {rows done : List Row}

theorem keepDistinct_of_same {row : Row} (same : done.any (·.same row) = true) :
    keepDistinct done row = done :=
  if_pos same

theorem keepDistinct_of_new {row : Row} (new : done.any (·.same row) = false) :
    keepDistinct done row = done ++ [row] :=
  if_neg (Bool.eq_false_iff.1 new)

/-- What was kept stays at the front, and no row is kept twice. -/
theorem foldl_keepDistinct_bounds (rows done : List Row) :
    done <+: rows.foldl keepDistinct done ∧ (rows.foldl keepDistinct done).Sublist (done ++ rows) := by
  induction rows generalizing done with
  | nil => exact ⟨List.prefix_rfl, by rw [List.append_nil]; exact List.Sublist.refl done⟩
  | cons row rest ih =>
    rw [List.foldl_cons]
    cases same : done.any (·.same row) with
    | true =>
      rw [keepDistinct_of_same same]
      have dropped : (done ++ rest).Sublist (done ++ row :: rest) :=
        (List.sublist_cons_self row rest).append_left done
      exact ⟨(ih done).1, (ih done).2.trans dropped⟩
    | false =>
      rw [keepDistinct_of_new same]
      have kept := ih (done ++ [row])
      rw [List.append_assoc, List.singleton_append] at kept
      exact ⟨(List.prefix_append done [row]).trans kept.1, kept.2⟩

/-- All rows are kept exactly when none is the same as one before it. -/
theorem length_foldl_keepDistinct_eq_iff (rows done : List Row) :
    (rows.foldl keepDistinct done).length = done.length + rows.length ↔
      (∀ kept ∈ done, ∀ row ∈ rows, kept.same row = false) ∧ AllDistinct rows := by
  induction rows generalizing done with
  | nil =>
    refine iff_of_true rfl ⟨fun _ _ _ none => ?_, List.Pairwise.nil⟩
    cases none
  | cons row rest ih =>
    rw [List.foldl_cons, List.length_cons]
    cases same : done.any (·.same row) with
    | true =>
      rw [keepDistinct_of_same same]
      have shorter := (foldl_keepDistinct_bounds rest done).2.length_le
      rw [List.length_append] at shorter
      obtain ⟨kept, before, equal⟩ := List.any_eq_true.1 same
      refine iff_of_false (by omega) fun apart => ?_
      rw [apart.1 kept before row List.mem_cons_self] at equal
      cases equal
    | false =>
      have longer : done.length + (rest.length + 1) = (done ++ [row]).length + rest.length := by
        rw [List.length_append, List.length_singleton]
        omega
      have new : ∀ kept ∈ done, kept.same row = false := fun kept before =>
        Bool.eq_false_iff.2 (List.any_eq_false.1 same kept before)
      rw [keepDistinct_of_new same, longer, ih]
      unfold AllDistinct
      rw [List.pairwise_cons]
      constructor
      · rintro ⟨before, later⟩
        refine ⟨fun kept hkept other hother => ?_, before row (List.mem_append_right _ ?_), later⟩
        · rcases List.mem_cons.1 hother with rfl | behind
          · exact new kept hkept
          · exact before kept (List.mem_append_left _ hkept) other behind
        · exact List.mem_singleton_self row
      · rintro ⟨before, first, later⟩
        refine ⟨fun kept hkept other hother => ?_, later⟩
        rcases List.mem_append.1 hkept with old | this
        · exact before kept old other (List.mem_cons_of_mem _ hother)
        · rw [List.mem_singleton.1 this]
          exact first other hother

theorem length_distinctRows_eq_iff (rows : List Row) :
    (distinctRows rows).length = rows.length ↔ AllDistinct rows := by
  have kept := length_foldl_keepDistinct_eq_iff rows []
  rw [List.length_nil, Nat.zero_add] at kept
  refine kept.trans ⟨And.right, fun apart => ⟨fun _ none => ?_, apart⟩⟩
  cases none

/-- The first row is kept. -/
theorem distinctRows_eq_nil_iff (rows : List Row) : distinctRows rows = [] ↔ rows = [] := by
  cases rows with
  | nil => exact iff_of_true rfl rfl
  | cons row rest =>
    have kept := (foldl_keepDistinct_bounds rest [row]).1
    have first : distinctRows (row :: rest) = rest.foldl keepDistinct [row] := rfl
    refine iff_of_false (fun none => ?_) (List.cons_ne_nil row rest)
    rw [← first, none] at kept
    exact absurd (List.prefix_nil.1 kept) (List.cons_ne_nil row [])

end Select

namespace Query

variable {q : Query} {db : Database} {s : Session} {store : Store}

/-- The query is counted as many rows as it answers. -/
def CountsAnswers (q : Query) (db : Database) (s : Session) : Prop :=
  (q.count db s).1 = (q.get db s).1.map fun found => (found.length : Int)

/-- Counting leaves out no row that is answered, and no row that is dropped: a query that does not
group and keeps distinct rows only has none to drop. -/
def DropsNone (q : Query) (store : Store) : Prop :=
  q.distinct = true → q.groupBy.isEmpty = true → Select.AllDistinct (q.statement.projected store)

instance (q : Query) (store : Store) : Decidable (q.DropsNone store) :=
  inferInstanceAs (Decidable (_ → _))

/-- What is not cut off is answered as a whole. -/
theorem select_unlimited (unlimited : q.limit = none) (unskipped : q.offset = none) :
    store.select q.statement = if q.distinct then Select.distinctRows (q.statement.projected store)
      else q.statement.projected store := by
  have uncut : q.statement.uncut = q.statement := by
    unfold Select.uncut statement
    rw [unlimited, unskipped]
  rw [← uncut, Store.select_uncut q.listing_statement]
  rfl

/-- As many instances are answered as there are rows. -/
theorem length_of_get (opened : s.engine.storeOf db.handle = .ok store) {found : List Instance}
    (answered : (q.get db s).1 = .ok found) : found.length = (store.select q.statement).length := by
  have alone := congrArg List.length (alone_of_get opened answered)
  rw [List.length_map, List.length_map] at alone
  exact alone

theorem run_hasRows {n : Int} (counted : (q.count db s).1 = .ok n) :
    (q.hasRows db s).1 = .ok (decide (0 < n)) := by
  unfold hasRows
  rw [Work.run_bind]
  split
  · next ran =>
    rw [ran] at counted
    cases counted
    rfl
  · next ran =>
    rw [ran] at counted
    cases counted

section

variable (unlimited : q.limit = none) (unskipped : q.offset = none)
  (opened : s.engine.storeOf db.handle = .ok store)
  (held : (q.statement.selectedScopes store).length ≤ maxInt64)

include unlimited unskipped opened held

/-- The number of rows that is counted is that of the rows that are answered exactly where no row is
dropped, and it is zero only if nothing is answered. -/
theorem exists_count : ∃ n : Nat, (q.count db s).1 = .ok (n : Int) ∧
    (n = (store.select q.statement).length ↔ q.DropsNone store) ∧
    (n = 0 ↔ store.select q.statement = []) := by
  cases grouped : q.groupBy.isEmpty with
  | false =>
    refine ⟨_, count_groups grouped opened, ?_, List.length_eq_zero_iff⟩
    refine iff_of_true rfl fun _ none => ?_
    rw [none] at grouped
    cases grouped
  | true =>
    refine ⟨_, count_scopes grouped opened held, ?_⟩
    rw [select_unlimited unlimited unskipped, ← q.statement.length_projected store]
    unfold DropsNone
    cases q.distinct with
    | false =>
      refine ⟨iff_of_true rfl fun none => ?_, List.length_eq_zero_iff⟩
      cases none
    | true =>
      rw [if_pos rfl, Select.distinctRows_eq_nil_iff, eq_comm, Select.length_distinctRows_eq_iff]
      exact ⟨⟨fun apart _ _ => apart, fun apart => apart rfl grouped⟩, List.length_eq_zero_iff⟩

/-- **Count agrees with get** where nothing is dropped. A query that nothing is cut off, whatever
its conditions, joins, columns, groups and orders, is given. It is answered where its relations can
be loaded. Whenever it is answered, whether there are rows is told truly, and they are counted as
many as there are exactly when no row is dropped for an equal one that the count takes in. Rows are
counted in 64 bits. -/
theorem countsAnswers_iff :
    (q.Loadable db.registry → q.get.Answers db s fun _ s' => s'.engine = s.engine) ∧
      ∀ found, (q.get db s).1 = .ok found →
        (q.hasRows db s).1 = .ok (!found.isEmpty) ∧
          (q.CountsAnswers db s ↔ q.DropsNone store) := by
  refine ⟨fun loadable => (answers_get loadable opened).mono fun _ _ => And.right, ?_⟩
  intro found answered
  obtain ⟨n, counted, all, any⟩ := exists_count unlimited unskipped opened held
  have length := length_of_get opened answered
  rw [← length] at all
  rw [← List.length_eq_zero_iff, ← length] at any
  refine ⟨?_, ?_⟩
  · rw [run_hasRows counted]
    congr 1
    rw [Bool.eq_iff_iff, decide_eq_true_iff, Bool.not_eq_true', List.isEmpty_eq_false_iff,
      ← List.length_pos_iff]
    omega
  · unfold CountsAnswers
    rw [counted, answered, ← all]
    change Except.ok (n : Int) = Except.ok (found.length : Int) ↔ _
    rw [Except.ok.injEq, Int.natCast_inj]

end

/-- The names on the orders of the customers, each once, with the orders loaded. -/
def namesOnOrders (columns : List String) : Query :=
  { shopCustomer.query with
    joins := [⟨.left, "orders", "customers.id", "orders.customer_id"⟩]
    columns := some columns
    distinct := true
    loads := ["orders"] }

theorem countsAnswers_namesOnOrders :
    let q := namesOnOrders ["customers.name", "orders.name as named"]
    q.limit = none ∧ q.offset = none ∧ (q.statement.selectedScopes namedOrders).length ≤ maxInt64 ∧
      q.CountsAnswers { registry := shopRegistry } (namedOrders.session ⟨0⟩) := by
  intro q
  have held : (q.statement.selectedScopes namedOrders).length ≤ maxInt64 := by decide +kernel
  have opened : (namedOrders.session ⟨0⟩).engine.storeOf
      ({ registry := shopRegistry } : Database).handle = .ok namedOrders := rfl
  obtain ⟨answers, counts⟩ := countsAnswers_iff (q := q) rfl rfl opened held
  obtain ⟨found, s', answered, -⟩ := answers (loadable_orders rfl rfl)
  refine ⟨rfl, rfl, held, (counts found (congrArg Prod.fst answered)).2.2 ?_⟩
  decide +kernel

/-- Two posts of one title. -/
def sameTitles : Store :=
  { tables := [("posts", [.ofFields [("id", .int 1), ("title", .text "Tea")],
      .ofFields [("id", .int 2), ("title", .text "Tea")]])] }

/-- The titles of the posts, each once. -/
def distinctTitles : Query :=
  { model := .bare "Post" "posts" [] {}, columns := some ["title"], distinct := true }

/-- A title of two posts is answered once and counted twice. -/
theorem not_countsAnswers_titles :
    ¬distinctTitles.CountsAnswers { registry := {} } (sameTitles.session ⟨0⟩) := by
  intro counts
  have opened : (sameTitles.session ⟨0⟩).engine.storeOf ({ registry := {} } : Database).handle =
      .ok sameTitles := rfl
  obtain ⟨n, counted, all, -⟩ := exists_count (q := distinctTitles) rfl rfl opened
    (by decide +kernel)
  have answered := run_get distinctTitles rfl opened
  have length := length_of_get opened answered
  unfold CountsAnswers at counts
  rw [counted, answered] at counts
  have same : (n : Int) = List.length _ := Except.ok.inj counts
  have apart : distinctTitles.DropsNone sameTitles := all.1 (by rw [← length]; omega)
  exact absurd apart (by decide +kernel)

end Query

end EntityStore
