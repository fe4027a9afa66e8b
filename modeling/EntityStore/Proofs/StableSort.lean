import EntityStore.Proofs.Conditions
import EntityStore.Proofs.Nulls
import EntityStore.Proofs.Pages
import EntityStore.Proofs.Sorting

/-!
# Orders by columns

A column that holds nulls and values of one kind can be ordered by: its values have ranks
(`Kind.exists_rank`), in a descending order those of the dual order, and under several keys the
ranks are pairs that are compared lexicographically (`Select.exists_rankedBy`). So sorting by such
columns is the stable sort by them (`Select.sortScopes_stablySorted`), of which there is only one
(`StablySorted.unique`). Main result: a selection of rows answers a window of the stable sort of
what it matches (`Store.select_stablySorted`).
-/

namespace EntityStore

/-- A value comes before another one in ascending order: texts and integers by their order, false
before true, and every value before null. -/
inductive Value.Precedes : Value → Value → Prop
  | text {s t : String} (less : s < t) : Precedes (.text s) (.text t)
  | bool : Precedes (.bool false) (.bool true)
  | int {m n : Int} (less : m < n) : Precedes (.int m) (.int n)
  | null {v : Value} (present : v ≠ .null) : Precedes v .null

namespace Direction

/-- A value comes before another one in a direction. -/
def Puts : Direction → Value → Value → Prop
  | .asc, v, w => v.Precedes w
  | .desc, v, w => w.Precedes v

/-- How values that are ordered in some way are ordered in a direction. -/
def orient : Direction → Ordering → Ordering
  | .asc, o => o
  | .desc, o => o.swap

end Direction

namespace Order

/-- By the first column in which they differ, what shows the one values comes before what shows the
others. -/
def Before (a b : String → Value) : List Order → Prop
  | [] => False
  | .random :: rest => Before a b rest
  | .column name direction :: rest =>
    direction.Puts (a name) (b name) ∨ a name = b name ∧ Before a b rest

/-- The values are the same in every column of the order. -/
def ties (a b : String → Value) : List Order → Bool
  | [] => true
  | .random :: rest => ties a b rest
  | .column name _ :: rest => decide (a name = b name) && ties a b rest

/-- What shows the one values may stand in front of what shows the others. -/
def InOrder (orderBy : List Order) (a b : String → Value) : Prop :=
  Before a b orderBy ∨ ties a b orderBy

end Order

/-- The items in order, those that are equal in every column of it as they stood. -/
structure StablySorted {α : Type} (look : α → String → Value) (orderBy : List Order)
    (items sorted : List α) : Prop where
  perm : sorted.Perm items
  ordered : sorted.Pairwise fun a b => Order.InOrder orderBy (look a) (look b)
  stable : ∀ shown : String → Value,
    sorted.filter (fun a => Order.ties shown (look a) orderBy) =
      items.filter fun a => Order.ties shown (look a) orderBy

namespace Value

theorem text_precedes {s t : String} : (text s).Precedes (.text t) ↔ s < t :=
  ⟨fun before => by cases before; assumption, .text⟩

theorem int_precedes {m n : Int} : (int m).Precedes (.int n) ↔ m < n :=
  ⟨fun before => by cases before; assumption, .int⟩

theorem not_null_precedes {v : Value} : ¬ null.Precedes v := by
  intro before
  cases before with
  | null present => exact present rfl

/-- Whether a value comes before another one. -/
def precedes : Value → Value → Bool
  | v, .null => decide (v ≠ .null)
  | .text s, .text t => decide (s < t)
  | .bool a, .bool b => !a && b
  | .number (.int m), .number (.int n) => decide (m < n)
  | _, _ => false

theorem precedes_iff (v w : Value) : v.precedes w = true ↔ v.Precedes w := by
  constructor
  · intro h
    match v, w, h with
    | v, .null, h => exact .null (of_decide_eq_true h)
    | .text s, .text t, h => exact .text (of_decide_eq_true h)
    | .bool a, .bool b, h =>
      obtain ⟨rfl, rfl⟩ : a = false ∧ b = true := by simpa [precedes] using h
      exact .bool
    | .number (.int m), .number (.int n), h => exact .int (of_decide_eq_true h)
  · intro before
    cases before with
    | null present => exact decide_eq_true present
    | text less | int less => exact decide_eq_true less
    | bool => rfl

instance (v w : Value) : Decidable (v.Precedes w) :=
  decidable_of_iff _ (v.precedes_iff w)

end Value

instance (direction : Direction) (v w : Value) : Decidable (direction.Puts v w) :=
  match direction with
  | .asc => inferInstanceAs (Decidable (v.Precedes w))
  | .desc => inferInstanceAs (Decidable (w.Precedes v))

instance Order.decidableBefore (a b : String → Value) :
    (orderBy : List Order) → Decidable (Order.Before a b orderBy)
  | [] => .isFalse id
  | .random :: rest => Order.decidableBefore a b rest
  | .column name direction :: rest =>
    have := Order.decidableBefore a b rest
    inferInstanceAs
      (Decidable (direction.Puts (a name) (b name) ∨ a name = b name ∧ Before a b rest))

theorem Value.Precedes.asymm {v w : Value} (less : v.Precedes w) : ¬ w.Precedes v := by
  intro more
  cases less with
  | text less =>
    cases more with
    | text more => exact lt_asymm less more
  | bool => cases more
  | int less =>
    cases more with
    | int more => exact lt_asymm less more
  | null present =>
    cases more with
    | null absent => exact absent rfl

theorem Direction.Puts.asymm {direction : Direction} {v w : Value} (first : direction.Puts v w) :
    ¬ direction.Puts w v := by
  cases direction with
  | asc => exact Value.Precedes.asymm first
  | desc => exact Value.Precedes.asymm first

namespace Order

variable {a b c : String → Value} {orderBy : List Order}

theorem ties_iff : ties a b orderBy = true ↔
    ∀ name direction, .column name direction ∈ orderBy → a name = b name := by
  induction orderBy with
  | nil => exact ⟨fun _ _ _ none => absurd none List.not_mem_nil, fun _ => rfl⟩
  | cons key rest ih =>
    cases key with
    | random => simpa [ties] using ih
    | column name direction =>
      simp only [ties, Bool.and_eq_true, decide_eq_true_eq, ih, List.mem_cons, Order.column.injEq]
      constructor
      · rintro ⟨same, others⟩ name' direction' (⟨rfl, -⟩ | mem)
        · exact same
        · exact others name' direction' mem
      · intro all
        exact ⟨all name direction (.inl ⟨rfl, rfl⟩), fun _ _ mem => all _ _ (.inr mem)⟩

theorem ties_comm (a b : String → Value) (orderBy : List Order) :
    ties a b orderBy = ties b a orderBy := by
  rw [Bool.eq_iff_iff, ties_iff, ties_iff]
  exact forall₃_congr fun _ _ _ => eq_comm

theorem ties_trans (first : ties a b orderBy) (second : ties b c orderBy) : ties a c orderBy :=
  ties_iff.2 fun name direction mem =>
    (ties_iff.1 first name direction mem).trans (ties_iff.1 second name direction mem)

theorem ties_self (a : String → Value) (orderBy : List Order) : ties a a orderBy :=
  ties_iff.2 fun _ _ _ => rfl

/-- What comes before something is not tied with it, and does not come after it. -/
theorem Before.asymm (first : Before a b orderBy) :
    ¬ ties b a orderBy ∧ ¬ Before b a orderBy := by
  induction orderBy with
  | nil => exact first.elim
  | cons key rest ih =>
    cases key with
    | random => exact ih first
    | column name direction =>
      simp only [ties, Bool.and_eq_true, decide_eq_true_eq]
      rcases first with put | ⟨same, first⟩
      · have different : b name ≠ a name := fun same => (same ▸ put).asymm (same ▸ put)
        refine ⟨fun tied => different tied.1, ?_⟩
        rintro (more | ⟨same, -⟩)
        · exact put.asymm more
        · exact different same
      · refine ⟨fun tied => (ih first).1 tied.2, ?_⟩
        rintro (more | ⟨-, more⟩)
        · exact (same ▸ more).asymm (same ▸ more)
        · exact (ih first).2 more

/-- Only the columns of an order matter for it. -/
theorem before_ties_congr {a' b' : String → Value}
    (same : ∀ name direction, .column name direction ∈ orderBy →
      a' name = a name ∧ b' name = b name) :
    (Before a' b' orderBy ↔ Before a b orderBy) ∧ ties a' b' orderBy = ties a b orderBy := by
  induction orderBy with
  | nil => exact ⟨Iff.rfl, rfl⟩
  | cons key rest ih =>
    have later := ih fun name direction mem => same name direction (List.mem_cons_of_mem _ mem)
    cases key with
    | random => exact later
    | column name direction =>
      obtain ⟨sameA, sameB⟩ := same name direction List.mem_cons_self
      simp only [Before, ties, sameA, sameB, later.1, later.2, true_and]

end Order

namespace StablySorted

variable {α β : Type} {look : α → String → Value} {orderBy : List Order}
  {items sorted sorted' : List α}

/-- Two lists in order with the same items, tied ones in the same order, are the same. -/
theorem eq_of_stable (perm : sorted.Perm sorted')
    (ordered : sorted.Pairwise fun a b => Order.InOrder orderBy (look a) (look b))
    (ordered' : sorted'.Pairwise fun a b => Order.InOrder orderBy (look a) (look b))
    (stable : ∀ shown : String → Value,
      sorted.filter (fun a => Order.ties shown (look a) orderBy) =
        sorted'.filter fun a => Order.ties shown (look a) orderBy) : sorted = sorted' := by
  induction sorted generalizing sorted' with
  | nil => exact perm.nil_eq
  | cons x rest ih =>
    cases sorted' with
    | nil => exact perm.eq_nil
    | cons y rest' =>
      obtain ⟨first, orderedRest⟩ := List.pairwise_cons.1 ordered
      obtain ⟨first', orderedRest'⟩ := List.pairwise_cons.1 ordered'
      -- Each of the two heads is in the other list, so neither is before the other.
      have tied : Order.ties (look x) (look y) orderBy := by
        rcases List.mem_cons.1 (perm.mem_iff.1 List.mem_cons_self) with rfl | hx
        · exact Order.ties_self _ _
        rcases List.mem_cons.1 (perm.mem_iff.2 List.mem_cons_self) with rfl | hy
        · exact Order.ties_self _ _
        rcases first y hy with before | tied
        · rcases first' x hx with after | tied
          · exact absurd after before.asymm.2
          · exact absurd tied before.asymm.1
        · exact tied
      have alike := stable (look x)
      rw [List.filter_cons, List.filter_cons, if_pos (Order.ties_self _ _), if_pos tied] at alike
      have same : x = y := (List.cons.inj alike).1
      subst same
      rw [ih ((List.perm_cons x).1 perm) orderedRest orderedRest']
      intro shown
      have alike := stable shown
      rw [List.filter_cons, List.filter_cons] at alike
      split at alike
      · exact (List.cons.inj alike).2
      · exact alike

/-- There is one stable sort. -/
theorem unique (first : StablySorted look orderBy items sorted)
    (second : StablySorted look orderBy items sorted') : sorted = sorted' :=
  eq_of_stable (first.perm.trans second.perm.symm) first.ordered second.ordered fun shown =>
    (first.stable shown).trans (second.stable shown).symm

/-- What shows the same columns is sorted in the same way. -/
theorem map {f : α → β} {look' : β → String → Value}
    (sort : StablySorted look orderBy items sorted)
    (same : ∀ a ∈ items, ∀ name direction, .column name direction ∈ orderBy →
      look' (f a) name = look a name) :
    StablySorted look' orderBy (items.map f) (sorted.map f) := by
  refine ⟨sort.perm.map f, ?_, ?_⟩
  · rw [List.pairwise_map]
    refine sort.ordered.imp_of_mem fun {a b} ha hb ordered => ?_
    have congr := Order.before_ties_congr fun name direction mem =>
      And.intro (same a (sort.perm.mem_iff.1 ha) name direction mem)
        (same b (sort.perm.mem_iff.1 hb) name direction mem)
    rwa [Order.InOrder, congr.1, congr.2]
  · intro shown
    have tie : ∀ a ∈ items,
        Order.ties shown (look' (f a)) orderBy = Order.ties shown (look a) orderBy :=
      fun a ha => (Order.before_ties_congr fun name direction mem =>
        And.intro rfl (same a ha name direction mem)).2
    have tie' : ∀ a ∈ sorted, Order.ties shown (look' (f a)) orderBy =
        Order.ties shown (look a) orderBy := fun a ha => tie a (sort.perm.mem_iff.1 ha)
    rw [List.filter_map, List.filter_map]
    congr 1
    exact (List.filter_congr tie').trans ((sort.stable shown).trans (List.filter_congr tie).symm)

end StablySorted

namespace Kind

/-- The value is null or one of the kind. -/
def has : Kind → Value → Bool
  | _, .null => true
  | .text, .text _ => true
  | .boolean, .bool _ => true
  | .integer, .number (.int n) => decide (Binary64.IsSmall n)
  | _, _ => false

theorem has_iff (kind : Kind) (v : Value) : kind.has v = true ↔ kind.Has v := by
  constructor
  · intro h
    match kind, v, h with
    | _, .null, _ => exact .null
    | .text, .text s, _ => exact .text s
    | .boolean, .bool b, _ => exact .bool b
    | .integer, .number (.int n), h => exact .int (of_decide_eq_true h)
  · intro h
    cases h with
    | null => cases kind <;> rfl
    | text s => rfl
    | bool b => rfl
    | int small => exact decide_eq_true small

instance (kind : Kind) (v : Value) : Decidable (kind.Has v) :=
  decidable_of_iff _ (kind.has_iff v)

/-- The values of a kind have ranks by which they are ordered. -/
theorem exists_rank (kind : Kind) : ∃ (α : Type) (_ : LinearOrder α) (rank : Value → α),
    ∀ v w, kind.Has v → kind.Has w → v.order w = compare (rank v) (rank w) := by
  cases kind with
  | text =>
    refine ⟨WithTop String, inferInstance,
      Value.place fun v => v.asText?.getD "", fun v w hv hw => Value.order_eq_place ?_⟩
    intro hv' hw'
    cases hv with
    | null => exact absurd rfl hv'
    | text s =>
      cases hw with
      | null => exact absurd rfl hw'
      | text t => rfl
  | boolean =>
    refine ⟨WithTop Bool, inferInstance,
      Value.place fun v => decide (v = .bool true), fun v w hv hw => Value.order_eq_place ?_⟩
    intro hv' hw'
    cases hv with
    | null => exact absurd rfl hv'
    | bool a =>
      cases hw with
      | null => exact absurd rfl hw'
      | bool b => cases a <;> cases b <;> rfl
  | integer =>
    refine ⟨WithTop Int, inferInstance, Value.place Value.integer, fun v w hv hw =>
      Value.order_eq_place ?_⟩
    intro hv' hw'
    cases hv with
    | null => exact absurd rfl hv'
    | int hm =>
      cases hw with
      | null => exact absurd rfl hw'
      | int hn => exact Value.compare?_int hm hn

/-- The ranks of a kind in a direction are those of the order or of its dual. -/
theorem exists_directedRank (kind : Kind) (direction : Direction) :
    ∃ (α : Type) (_ : LinearOrder α) (rank : Value → α), ∀ v w, kind.Has v → kind.Has w →
      direction.orient (v.order w) = compare (rank v) (rank w) := by
  obtain ⟨α, _, rank, ranked⟩ := kind.exists_rank
  cases direction with
  | asc => exact ⟨α, inferInstance, rank, ranked⟩
  | desc =>
    refine ⟨αᵒᵈ, inferInstance, fun v => OrderDual.toDual (rank v), fun v w hv hw => ?_⟩
    rw [Direction.orient, ranked v w hv hw]
    exact Std.OrientedOrd.eq_swap.symm

variable {kind : Kind} {v w : Value}

theorem Has.order_iff (hv : kind.Has v) (hw : kind.Has w) :
    (v.order w = .lt ↔ v.Precedes w) ∧ (v.order w = .eq ↔ v = w) := by
  cases hv with
  | null =>
    cases hw with
    | null => exact ⟨iff_of_false nofun Value.not_null_precedes, iff_of_true rfl rfl⟩
    | text t | bool b | int hn =>
      exact ⟨iff_of_false nofun Value.not_null_precedes, iff_of_false nofun nofun⟩
  | text s =>
    cases hw with
    | null => exact ⟨iff_of_true rfl (.null nofun), iff_of_false nofun nofun⟩
    | text t =>
      change (Ord.compare s t = .lt ↔ _) ∧ (Ord.compare s t = .eq ↔ _)
      rw [compare_lt_iff_lt, compare_eq_iff_eq, Value.text.injEq, Value.text_precedes]
      exact ⟨Iff.rfl, Iff.rfl⟩
  | bool a =>
    cases hw with
    | null => exact ⟨iff_of_true rfl (.null nofun), iff_of_false nofun nofun⟩
    | bool b =>
      cases a <;> cases b
      · exact ⟨iff_of_false nofun nofun, iff_of_true rfl rfl⟩
      · exact ⟨iff_of_true rfl .bool, iff_of_false nofun nofun⟩
      · exact ⟨iff_of_false nofun nofun, iff_of_false nofun nofun⟩
      · exact ⟨iff_of_false nofun nofun, iff_of_true rfl rfl⟩
  | @int m hm =>
    cases hw with
    | null => exact ⟨iff_of_true rfl (.null nofun), iff_of_false nofun nofun⟩
    | @int n hn =>
      have compared : (Value.int m).order (.int n) = Ord.compare m n := by
        change ((Value.int m).compare? (.int n)).getD .eq = _
        rw [Value.compare?_int hm hn]
        rfl
      rw [compared, compare_lt_iff_lt, compare_eq_iff_eq, Value.int_precedes, Value.int, Value.int,
        Value.number.injEq, Number.int.injEq]
      exact ⟨Iff.rfl, Iff.rfl⟩

theorem Has.order_swap (hv : kind.Has v) (hw : kind.Has w) : (v.order w).swap = w.order v := by
  obtain ⟨α, _, rank, ranked⟩ := kind.exists_rank
  rw [ranked v w hv hw, ranked w v hw hv]
  exact Std.OrientedOrd.eq_swap.symm

theorem Has.orient_iff (hv : kind.Has v) (hw : kind.Has w) (direction : Direction) :
    (direction.orient (v.order w) = .lt ↔ direction.Puts v w) ∧
      (direction.orient (v.order w) = .eq ↔ v = w) := by
  cases direction with
  | asc => exact hv.order_iff hw
  | desc =>
    rw [Direction.orient, hv.order_swap hw, eq_comm (a := v)]
    exact hw.order_iff hv

end Kind

namespace Select

variable {orderBy : List Order} {scopes : List Scope}

/-- In every column of the order the scopes have values of one kind. -/
def Orderable (orderBy : List Order) (scopes : List Scope) : Prop :=
  ∀ name direction, .column name direction ∈ orderBy →
    ∃ kind : Kind, ∀ scope ∈ scopes, kind.Has (scope.lookup name)

theorem Orderable.tail {key : Order} (orderable : Orderable (key :: orderBy) scopes) :
    Orderable orderBy scopes :=
  fun name direction mem => orderable name direction (List.mem_cons_of_mem key mem)

theorem compareScopes_column (a b : Scope) (name : String) (direction : Direction)
    (rest : List Order) : compareScopes a b (.column name direction :: rest) =
      (direction.orient ((a.lookup name).order (b.lookup name))).then
        (compareScopes a b rest) := by
  rw [compareScopes]
  generalize (a.lookup name).order (b.lookup name) = o
  cases direction <;> cases o <;> rfl

/-- Scopes that can be ordered have ranks: those of their values, lexicographically. -/
theorem exists_rankedBy (orderable : Orderable orderBy scopes) :
    ∃ (α : Type) (_ : LinearOrder α) (rank : Scope → α), RankedBy orderBy rank scopes := by
  induction orderBy with
  | nil => exact ⟨ℕ, inferInstance, fun _ => 0, rankedBy_nil scopes⟩
  | cons key rest ih =>
    obtain ⟨β, _, later, rankedLater⟩ := ih orderable.tail
    cases key with
    | random => exact ⟨β, inferInstance, later, rankedLater⟩
    | column name direction =>
      obtain ⟨kind, kinds⟩ := orderable name direction List.mem_cons_self
      obtain ⟨α, _, rank, ranked⟩ := kind.exists_directedRank direction
      refine ⟨α ×ₗ β, inferInstance, fun scope => toLex (rank (scope.lookup name), later scope), ?_⟩
      intro a ha b hb
      rw [compareScopes_column, ranked _ _ (kinds a ha) (kinds b hb), rankedLater a ha b hb]
      rfl

/-- Scopes that can be ordered are compared column by column. -/
theorem compareScopes_iff (orderable : Orderable orderBy scopes) {a b : Scope} (ha : a ∈ scopes)
    (hb : b ∈ scopes) :
    (compareScopes a b orderBy = .lt ↔ Order.Before a.lookup b.lookup orderBy) ∧
      (compareScopes a b orderBy = .eq ↔ Order.ties a.lookup b.lookup orderBy) := by
  induction orderBy with
  | nil => exact ⟨iff_of_false nofun id, iff_of_true rfl rfl⟩
  | cons key rest ih =>
    obtain ⟨before, tied⟩ := ih orderable.tail
    cases key with
    | random => exact ⟨before, tied⟩
    | column name direction =>
      obtain ⟨kind, kinds⟩ := orderable name direction List.mem_cons_self
      obtain ⟨puts, same⟩ := (kinds a ha).orient_iff (kinds b hb) direction
      rw [compareScopes_column, Ordering.then_eq_lt, Ordering.then_eq_eq, puts, same, before, tied,
        Order.Before, Order.ties, Bool.and_eq_true, decide_eq_true_eq]
      exact ⟨Iff.rfl, Iff.rfl⟩

theorem RankedBy.le_iff {α : Type} [LinearOrder α] {rank : Scope → α}
    (ranked : RankedBy orderBy rank scopes) (orderable : Orderable orderBy scopes) {a b : Scope}
    (ha : a ∈ scopes) (hb : b ∈ scopes) :
    rank a ≤ rank b ↔ Order.InOrder orderBy a.lookup b.lookup := by
  obtain ⟨before, tied⟩ := compareScopes_iff orderable ha hb
  rw [Order.InOrder, ← before, ← tied, ← compare_le_iff_le, ← ranked a ha b hb]
  cases compareScopes a b orderBy <;> decide

/-- Sorting by columns is the stable sort. -/
theorem sortScopes_stablySorted (columns : .random ∉ orderBy)
    (orderable : Orderable orderBy scopes) :
    StablySorted Scope.lookup orderBy scopes (sortScopes orderBy scopes) := by
  obtain ⟨α, _, rank, ranked⟩ := exists_rankedBy orderable
  have columns : orderBy.contains .random = false := by simpa using columns
  have perm := sortScopes_perm orderBy scopes
  refine ⟨perm, ?_, ?_⟩
  · refine (sortScopes_ascending ranked columns).imp_of_mem fun {a b} ha hb le => ?_
    exact (ranked.le_iff orderable (perm.mem_iff.1 ha) (perm.mem_iff.1 hb)).1 le
  · intro shown
    rw [sortScopes_filter ranked]
    -- Those that are tied with the same values are tied with one another, so they stand in order.
    have subset : scopes.filter (fun a => Order.ties shown a.lookup orderBy) ⊆ scopes :=
      List.filter_subset_self _
    refine (sortScopes_eq_self_iff (ranked.of_subset subset) columns).2 ?_
    refine List.pairwise_of_forall_mem_list fun a ha b hb => ?_
    refine (ranked.le_iff orderable (subset ha) (subset hb)).2 (Or.inr ?_)
    have tiedA := (List.mem_filter.1 ha).2
    rw [Order.ties_comm] at tiedA
    exact Order.ties_trans tiedA (List.mem_filter.1 hb).2

end Select

namespace Store

open Select (matching)

/-- **Ordering is a stable sort.** A selection of whole rows, whatever it joins and on whatever
conditions, is ordered by columns each of which has nulls and values of one kind in what matches.
With nothing cut off it answers the rows of the stable sort of what matches, which stands in the
order of the table before. With an offset and a limit it answers what stands in their window. -/
theorem select_stablySorted (store : Store) {statement : Select} (whole : statement.uncut.Whole)
    (columns : .random ∉ statement.orderBy)
    (orderable : Select.Orderable statement.orderBy
      ((store.rows statement.table).flatMap (matching store statement))) :
    (∃ sorted, StablySorted Scope.lookup statement.orderBy
        ((store.rows statement.table).flatMap (matching store statement)) sorted ∧
      store.select statement.uncut = sorted.map (·.base)) ∧
    ∀ i, (store.select statement)[i]? =
      if ∀ n ∈ statement.limit, i < n then
        (store.select statement.uncut)[statement.offset.getD 0 + i]?
      else none := by
  refine ⟨⟨_, Select.sortScopes_stablySorted columns orderable, store.select_whole whole⟩, ?_⟩
  have listing : statement.Listing := by
    intro function column aggregated
    cases whole.projection.symm.trans aggregated
  intro i
  rw [select_eq_window listing, Select.getElem?_window]

/-- A plant; some are of no known height. -/
def plant (name : String) (height : Value) (evergreen : Bool) : Row :=
  .ofFields [("evergreen", .bool evergreen), ("height", height), ("name", .text name)]

/-- Five plants. -/
def plants : Store :=
  { tables := [("plants", [plant "oak" (.int 30) false, plant "yew" (.int 20) true,
      plant "fir" .null true, plant "pine" (.int 30) true, plant "elm" (.int 30) false])] }

/-- The tallest plants, those that are not evergreen first: the second one to the fourth. -/
def tallest : Select :=
  { table := "plants", orderBy := [.column "height" .desc, .column "evergreen" .asc],
    offset := some 1, limit := some 3 }

/-- The plant of no known height comes first, in front of the window, and the oak stays in front of
the elm. -/
theorem select_stablySorted_plants :
    (∃ sorted, StablySorted Scope.lookup tallest.orderBy
        ((plants.rows "plants").flatMap (matching plants tallest)) sorted ∧
      plants.select tallest.uncut = sorted.map (·.base)) ∧
    plants.select tallest = [plant "oak" (.int 30) false, plant "elm" (.int 30) false,
      plant "pine" (.int 30) true] := by
  refine ⟨(plants.select_stablySorted ⟨rfl, rfl, rfl, rfl, rfl⟩ (by decide) ?_).1,
    by decide +kernel⟩
  intro name direction mem
  rcases List.mem_cons.1 mem with same | mem
  · cases same
    exact ⟨.integer, by decide +kernel⟩
  · cases List.mem_singleton.1 mem
    exact ⟨.boolean, by decide +kernel⟩

/-- Where nothing is joined and the columns have no table in front, the answer itself is the stable
sort of the rows that match. -/
theorem select_stablySorted_unjoined (store : Store) {statement : Select}
    (whole : statement.uncut.Whole) (unjoined : statement.joins = [])
    (columns : .random ∉ statement.orderBy)
    (orderable : ∀ name direction, .column name direction ∈ statement.orderBy →
      '.' ∉ name.toList ∧ ∃ kind : Kind, ∀ row ∈ store.rows statement.table,
        store.selects statement.table statement.conditions row → kind.Has (row.value name)) :
    StablySorted Row.value statement.orderBy
      ((store.rows statement.table).filter
        (store.selects statement.table statement.conditions))
      (store.select statement.uncut) := by
  have scopes : Select.Orderable statement.orderBy
      (((store.rows statement.table).filter
        (store.selects statement.table statement.conditions)).map (.ofRow statement.table)) := by
    intro name direction mem
    obtain ⟨plain, kind, kinds⟩ := orderable name direction mem
    refine ⟨kind, fun scope hscope => ?_⟩
    obtain ⟨row, hrow, rfl⟩ := List.mem_map.1 hscope
    rw [Scope.lookup_ofRow _ _ plain]
    exact kinds row (List.mem_filter.1 hrow).1 (List.mem_filter.1 hrow).2
  have bases : ∀ rows : List Row,
      (rows.map (Scope.ofRow statement.table)).map Scope.base = rows := fun rows => by
    rw [List.map_map]
    exact List.map_id _
  rw [store.select_eq_sorted whole unjoined, ← bases ((store.rows statement.table).filter _)]
  refine (Select.sortScopes_stablySorted columns scopes).map ?_
  intro scope hscope name direction mem
  obtain ⟨row, -, rfl⟩ := List.mem_map.1 hscope
  exact (Scope.lookup_ofRow _ row (orderable name direction mem).1).symm

end Store

end EntityStore
