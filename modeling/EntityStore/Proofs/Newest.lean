import EntityStore.Proofs.Loading
import EntityStore.Proofs.StableSort

/-!
# The newest and the oldest row

The newest row by a column is the first one in descending order of it, the oldest one in ascending
order. The column becomes the last key of the query's order, so it only decides among the rows that
the keys before it leave in front (`Select.Heads`), and the descending order puts null in front of
all values. The first row has an extreme value of all that match (`Select.Leads`) exactly when the
rows in front of the earlier keys are left with one and, in descending order, none of them is null
(`Select.Undisturbed`). Main result: `Query.answersLeading_iff`.
-/

namespace EntityStore

namespace Order

/-- One more key decides where the keys before it tie. -/
theorem inOrder_concat (a b : String → Value) (orderBy : List Order) (name : String)
    (direction : Direction) :
    InOrder (orderBy ++ [.column name direction]) a b ↔
      Before a b orderBy ∨
        ties a b orderBy = true ∧ (direction.Puts (a name) (b name) ∨ a name = b name) := by
  induction orderBy with
  | nil => simp [InOrder, Before, ties]
  | cons key rest ih =>
    cases key with
    | random => exact ih
    | column first direction' =>
      simp only [InOrder] at ih
      simp only [List.cons_append, InOrder, Before, ties, Bool.and_eq_true, decide_eq_true_eq]
      rw [or_assoc, ← and_or_left, ih, and_or_left, or_assoc, and_assoc]

end Order

namespace Select

/-- The combinations that a selection matches, in the order of its table. -/
def matched (store : Store) (statement : Select) : List Scope :=
  (store.rows statement.table).flatMap (matching store statement)

/-- No scope comes before it in the order. -/
def Heads (orderBy : List Order) (scopes : List Scope) (scope : Scope) : Prop :=
  ∀ other ∈ scopes, ¬ Order.Before other.lookup scope.lookup orderBy

/-- The scope has a value in the column, and no value of another one is further in the direction:
none is higher in descending order, none is lower in ascending order. -/
structure Leads (direction : Direction) (column : String) (scopes : List Scope) (scope : Scope) :
    Prop where
  present : scope.lookup column ≠ .null
  unsurpassed : ∀ other ∈ scopes, other.lookup column ≠ .null →
    ¬ direction.Puts (other.lookup column) (scope.lookup column)

/-- The keys of an order leave a leading scope in front and, where null would come first, no scope
without a value. -/
structure Undisturbed (orderBy : List Order) (direction : Direction) (column : String)
    (scopes : List Scope) : Prop where
  kept : ∃ scope ∈ scopes, Heads orderBy scopes scope ∧ Leads direction column scopes scope
  filled : direction = .desc → ∀ scope ∈ scopes, Heads orderBy scopes scope →
    scope.lookup column ≠ .null

section

variable (orderBy : List Order) (direction : Direction) (column : String) (scopes : List Scope)

instance (scope : Scope) : Decidable (Heads orderBy scopes scope) :=
  inferInstanceAs (Decidable (∀ other ∈ scopes, _))

instance (scope : Scope) : Decidable (Leads direction column scopes scope) :=
  decidable_of_iff (scope.lookup column ≠ .null ∧ ∀ other ∈ scopes, other.lookup column ≠ .null →
      ¬ direction.Puts (other.lookup column) (scope.lookup column))
    ⟨fun ⟨present, unsurpassed⟩ => ⟨present, unsurpassed⟩,
      fun ⟨present, unsurpassed⟩ => ⟨present, unsurpassed⟩⟩

instance : Decidable (Undisturbed orderBy direction column scopes) :=
  decidable_of_iff
    ((∃ scope ∈ scopes, Heads orderBy scopes scope ∧ Leads direction column scopes scope) ∧
      (direction = .desc → ∀ scope ∈ scopes, Heads orderBy scopes scope →
        scope.lookup column ≠ .null))
    ⟨fun ⟨kept, filled⟩ => ⟨kept, filled⟩, fun ⟨kept, filled⟩ => ⟨kept, filled⟩⟩

end

section

variable {orderBy : List Order} {direction : Direction} {column : String} {scopes : List Scope}
  {first : Scope} (mem : first ∈ scopes)
  (foremost : ∀ other ∈ scopes,
    Order.InOrder (orderBy ++ [.column column direction]) first.lookup other.lookup)

include foremost in
/-- What is first in the longer order is in front of the shorter one. -/
theorem heads_of_foremost : Heads orderBy scopes first := by
  intro other hother before
  rcases (Order.inOrder_concat _ _ _ _ _).1 (foremost other hother) with first | ⟨tied, -⟩
  · exact before.asymm.2 first
  · exact before.asymm.1 tied

include mem foremost

/-- Of the scopes in front of the shorter order it is first by the column. -/
theorem value_of_heads {scope : Scope} (there : scope ∈ scopes)
    (heads : Heads orderBy scopes scope) :
    direction.Puts (first.lookup column) (scope.lookup column) ∨
      first.lookup column = scope.lookup column := by
  rcases (Order.inOrder_concat _ _ _ _ _).1 (foremost scope there) with before | ⟨-, value⟩
  · exact absurd before (heads first mem)
  · exact value

/-- The scope that is first in the longer order leads by its last key exactly when the keys before
it do not disturb that. -/
theorem leads_iff_undisturbed :
    Leads direction column scopes first ↔ Undisturbed orderBy direction column scopes := by
  constructor
  · intro leads
    refine ⟨⟨first, mem, heads_of_foremost foremost, leads⟩, ?_⟩
    rintro rfl scope there heads none
    rcases value_of_heads mem foremost there heads with put | same
    · rw [none] at put
      exact Value.not_null_precedes put
    · exact leads.present (same.trans none)
  · rintro ⟨⟨scope, there, heads, leads⟩, filled⟩
    rcases value_of_heads mem foremost there heads with put | same
    · have present : first.lookup column ≠ .null := by
        intro none
        cases direction with
        | asc =>
          rw [none] at put
          exact Value.not_null_precedes put
        | desc => exact filled rfl first mem (heads_of_foremost foremost) none
      exact absurd put (leads.unsurpassed first mem present)
    · refine ⟨same ▸ leads.present, fun other hother present => ?_⟩
      rw [same]
      exact leads.unsurpassed other hother present

end

/-- Where nothing is joined, a row shows one value. -/
theorem lookup_eq_of_unjoined {store : Store} {statement : Select}
    (unjoined : statement.joins = []) {a b : Scope} (ha : a ∈ statement.matched store)
    (hb : b ∈ statement.matched store) (same : a.base = b.base) : a = b := by
  have alone : ∀ scope ∈ statement.matched store,
      scope = .ofRow statement.table scope.base := by
    intro scope hscope
    obtain ⟨row, -, matches_⟩ := List.mem_flatMap.1 hscope
    have combined := (List.mem_filter.1 matches_).1
    rw [unjoined] at combined
    rw [List.mem_singleton.1 combined]
    rfl
  rw [alone a ha, alone b hb, same]

end Select

namespace Query

variable {q : Query} {db : Database} {s : Session} {store : Store}

/-- The newest row by a column for the descending direction, the oldest one for the ascending
one. -/
def leading (q : Query) : Direction → Option String → Task (Option Instance)
  | .asc, column => q.oldest column
  | .desc, column => q.latest column

/-- What is answered is a matching row whose value leads. -/
def AnswersLeading (q : Query) (db : Database) (s : Session) (store : Store)
    (direction : Direction) (column : Option String) : Prop :=
  ∃ scope ∈ q.statement.matched store,
    Select.Leads direction (column.getD ageColumn) (q.statement.matched store) scope ∧
    ∃ i, (q.leading direction column db s).1 = .ok (some i) ∧ q.OfRows [scope.base] [i]

theorem leading_eq (q : Query) (direction : Direction) (column : Option String) :
    q.leading direction column = (q.orderedBy (column.getD ageColumn) direction).first := by
  cases direction <;> rfl

/-- Rows that are the same have one value in the column. -/
def OwnColumn (q : Query) (store : Store) (column : String) : Prop :=
  ∀ a ∈ q.statement.matched store, ∀ b ∈ q.statement.matched store,
    a.base = b.base → a.lookup column = b.lookup column

theorem ownColumn_of_unjoined (unjoined : q.joins = []) (column : String) :
    q.OwnColumn store column :=
  fun _ ha _ hb same => by rw [Select.lookup_eq_of_unjoined unjoined ha hb same]

section

variable (opened : s.engine.storeOf db.handle = .ok store) (loadable : q.Loadable db.registry)
  (whole : q.statement.Whole) (columns : .random ∉ q.orderBy)
  (orderable : Select.Orderable q.orderBy (q.statement.matched store))
  {column : Option String} {kind : Kind}
  (kinds : ∀ scope ∈ q.statement.matched store, kind.Has (scope.lookup (column.getD ageColumn)))
include opened loadable whole columns orderable kinds

/-- Where some row matches, the row of the combination is answered that is first by the keys of the
query and then by the column. -/
theorem exists_foremost (direction : Direction) (filled : q.statement.matched store ≠ []) :
    ∃ first ∈ q.statement.matched store,
      (∀ other ∈ q.statement.matched store,
        Order.InOrder (q.orderBy ++ [.column (column.getD ageColumn) direction])
          first.lookup other.lookup) ∧
      ∃ i, (q.leading direction column db s).1 = .ok (some i) ∧ q.OfRows [first.base] [i] := by
  let ordered := q.orderedBy (column.getD ageColumn) direction
  have wholeToo : ordered.statement.Whole :=
    ⟨whole.projection, whole.distinct, whole.groupBy, whole.limit, whole.offset⟩
  have stable : StablySorted Scope.lookup ordered.orderBy (q.statement.matched store)
      (Select.sortScopes ordered.orderBy (q.statement.matched store)) := by
    refine Select.sortScopes_stablySorted ?_ ?_
    · change Order.random ∉ q.orderBy ++ [.column (column.getD ageColumn) direction]
      simpa using columns
    · intro name direction' mem
      rcases List.mem_append.1 mem with mem | mem
      · exact orderable name direction' mem
      · cases List.mem_singleton.1 mem
        exact ⟨kind, kinds⟩
  have answered : store.select { ordered with limit := some 1 }.statement =
      ((Select.sortScopes ordered.orderBy (q.statement.matched store)).map (·.base)).take 1 := by
    have rows := store.select_whole wholeToo
    have limited := store.select_limit wholeToo 1
    rw [rows] at limited
    exact limited
  cases sorted : Select.sortScopes ordered.orderBy (q.statement.matched store) with
  | nil =>
    rw [sorted] at stable
    exact absurd (List.nil_perm.1 stable.perm) filled
  | cons first rest =>
    rw [sorted] at stable answered
    obtain ⟨before, -⟩ := List.pairwise_cons.1 stable.ordered
    refine ⟨first, stable.perm.mem_iff.1 List.mem_cons_self, fun other hother => ?_, ?_⟩
    · rcases List.mem_cons.1 (stable.perm.mem_iff.2 hother) with rfl | later
      · exact Or.inr (Order.ties_self _ _)
      · exact before other later
    · obtain ⟨found, s', ran, same, -⟩ :=
        answers_get (q := { ordered with limit := some 1 }) loadable opened
      rw [answered] at same
      obtain ⟨i, rfl⟩ := List.length_eq_one_iff.1 same.length
      refine ⟨i, ?_, same⟩
      rw [leading_eq, Query.first, Work.run_bind, ran]
      rfl

/-- An undisturbed order answers a row that leads. -/
theorem answersLeading_of_undisturbed {direction : Direction}
    (undisturbed : Select.Undisturbed q.orderBy direction (column.getD ageColumn)
      (q.statement.matched store)) : q.AnswersLeading db s store direction column := by
  obtain ⟨scope, there, -⟩ := undisturbed.kept
  obtain ⟨first, mem, foremost, answered⟩ :=
    exists_foremost opened loadable whole columns orderable kinds direction
      (List.ne_nil_of_mem there)
  exact ⟨first, mem, (Select.leads_iff_undisturbed mem foremost).2 undisturbed, answered⟩

/-- Where the answered row leads, and shows one value in the column, the order is undisturbed. -/
theorem undisturbed_of_answersLeading {direction : Direction}
    (own : q.OwnColumn store (column.getD ageColumn))
    (answers : q.AnswersLeading db s store direction column) :
    Select.Undisturbed q.orderBy direction (column.getD ageColumn) (q.statement.matched store) := by
  obtain ⟨scope, there, leads, i, answered, same⟩ := answers
  obtain ⟨first, mem, foremost, i', answered', same'⟩ :=
    exists_foremost opened loadable whole columns orderable kinds direction
      (List.ne_nil_of_mem there)
  cases Except.ok.inj (answered.symm.trans answered')
  have base : scope.base = first.base :=
    congrArg Instance.attributes (List.cons.inj (same.1.symm.trans same'.1)).1
  have value := own scope there first mem base
  exact (Select.leads_iff_undisturbed mem foremost).1
    ⟨value ▸ leads.present, value ▸ leads.unsurpassed⟩

/-- **The newest and the oldest row** of a query of whole rows, whatever it joins, on whatever
conditions, and whatever relations it loads with the rows. It may be ordered already, by columns
each of which has nulls and values of one kind in what matches, as has the column that is asked for.
The answered row has the highest value of all matching rows for the descending direction, the lowest
one for the ascending direction, if the order that the query has leaves a row with that value in
front and, in descending order, no row in front without a value. No other order will do, where rows
that are the same have one value in the column: so it is wherever nothing is joined. -/
theorem answersLeading_iff (direction : Direction) :
    (Select.Undisturbed q.orderBy direction (column.getD ageColumn) (q.statement.matched store) →
      q.AnswersLeading db s store direction column) ∧
    (q.OwnColumn store (column.getD ageColumn) → q.AnswersLeading db s store direction column →
      Select.Undisturbed q.orderBy direction (column.getD ageColumn)
        (q.statement.matched store)) :=
  ⟨answersLeading_of_undisturbed opened loadable whole columns orderable kinds,
    undisturbed_of_answersLeading opened loadable whole columns orderable kinds⟩

/-- A query without an order answers the lowest value of all that there are, and the highest one
where no value is missing. -/
theorem answersLeading_unordered (unordered : q.orderBy = []) (direction : Direction)
    (valued : ∃ scope ∈ q.statement.matched store, scope.lookup (column.getD ageColumn) ≠ .null)
    (filled : direction = .desc →
      ∀ scope ∈ q.statement.matched store, scope.lookup (column.getD ageColumn) ≠ .null) :
    q.AnswersLeading db s store direction column := by
  obtain ⟨scope, there, value⟩ := valued
  obtain ⟨first, mem, foremost, answered⟩ :=
    exists_foremost opened loadable whole columns orderable kinds direction
      (List.ne_nil_of_mem there)
  have ahead : ∀ other ∈ q.statement.matched store,
      direction.Puts (first.lookup (column.getD ageColumn)) (other.lookup (column.getD ageColumn)) ∨
        first.lookup (column.getD ageColumn) = other.lookup (column.getD ageColumn) := by
    intro other hother
    have placed := foremost other hother
    rw [unordered] at placed
    exact ((Order.inOrder_concat _ _ [] _ _).1 placed).elim False.elim And.right
  refine ⟨first, mem, ⟨fun none => ?_, fun other hother _ put => ?_⟩, answered⟩
  · cases direction with
    | asc =>
      rcases ahead scope there with put | equal
      · rw [none] at put
        exact Value.not_null_precedes put
      · exact value (equal.symm.trans none)
    | desc => exact filled rfl first mem none
  · rcases ahead other hother with before | equal
    · exact before.asymm put
    · rw [equal] at put
      exact put.asymm put

end

/-- A post; some have not been counted yet. -/
def post (id : Int) (pinned : Bool) (views : Value) : Row :=
  .ofFields [("id", .int id), ("pinned", .bool pinned), ("views", views)]

/-- Four posts, one of them with two comments. -/
def viewedPosts : Store :=
  { tables := [("posts", [post 1 true (.int 5), post 2 true (.int 9), post 3 false .null,
      post 4 false (.int 7)]),
    ("comments", [.ofFields [("id", .int 1), ("post_id", .int 2)],
      .ofFields [("id", .int 2), ("post_id", .int 2)]])] }

/-- The posts, in an order. -/
def postsBy (orderBy : List Order) : Query :=
  { model := .bare "Post" "posts" [] {}, orderBy }

/-- The posts with their comments, the pinned ones first. -/
def pinnedFirst : Query :=
  { postsBy [.column "pinned" .desc] with
    joins := [⟨.left, "comments", "posts.id", "comments.post_id"⟩] }

/-- The pinned posts have the highest number of views and the lowest one. -/
theorem answersLeading_pinned :
    pinnedFirst.statement.Whole ∧ .random ∉ pinnedFirst.orderBy ∧
      Select.Orderable pinnedFirst.orderBy (pinnedFirst.statement.matched viewedPosts) ∧
      ∀ direction, pinnedFirst.AnswersLeading { registry := {} } (viewedPosts.session ⟨0⟩)
        viewedPosts direction (some "views") := by
  have whole : pinnedFirst.statement.Whole := ⟨rfl, rfl, rfl, rfl, rfl⟩
  have columns : .random ∉ pinnedFirst.orderBy := by decide
  have orderable : Select.Orderable pinnedFirst.orderBy
      (pinnedFirst.statement.matched viewedPosts) := by
    intro name direction mem
    cases List.mem_singleton.1 mem
    exact ⟨.boolean, by decide +kernel⟩
  have kinds : ∀ scope ∈ pinnedFirst.statement.matched viewedPosts,
      Kind.integer.Has (scope.lookup ((some "views").getD ageColumn)) := by
    decide +kernel
  have undisturbed (direction : Direction) : Select.Undisturbed pinnedFirst.orderBy direction
      ((some "views").getD ageColumn) (pinnedFirst.statement.matched viewedPosts) := by
    cases direction <;> decide +kernel
  have opened : (viewedPosts.session ⟨0⟩).engine.storeOf ({ registry := {} } : Database).handle =
      .ok viewedPosts := rfl
  exact ⟨whole, columns, orderable, fun direction =>
    (answersLeading_iff opened (loadable_of_loads rfl _) whole columns orderable kinds
      direction).1 (undisturbed direction)⟩

/-- The post that has not been counted is answered as the one with the most views; ordered by their
keys, the first of the posts is. -/
theorem not_answersLeading_views :
    ¬ (postsBy []).AnswersLeading { registry := {} } (viewedPosts.session ⟨0⟩) viewedPosts .desc
        (some "views") ∧
      ¬ (postsBy [.column "id" .asc]).AnswersLeading { registry := {} }
        (viewedPosts.session ⟨0⟩) viewedPosts .desc (some "views") := by
  have opened : (viewedPosts.session ⟨0⟩).engine.storeOf ({ registry := {} } : Database).handle =
      .ok viewedPosts := rfl
  have kinds : ∀ orderBy, ∀ scope ∈ (postsBy orderBy).statement.matched viewedPosts,
      Kind.integer.Has (scope.lookup ((some "views").getD ageColumn)) := by
    change ∀ _ : List Order, ∀ scope ∈ (postsBy []).statement.matched viewedPosts, _
    exact fun _ => by decide +kernel
  constructor <;> intro answers
  · have orderable : Select.Orderable (postsBy []).orderBy
        ((postsBy []).statement.matched viewedPosts) := by
      intro name direction mem
      cases mem
    have undisturbed := undisturbed_of_answersLeading opened
      (loadable_of_loads rfl _) ⟨rfl, rfl, rfl, rfl, rfl⟩ (by decide) orderable (kinds _)
      (ownColumn_of_unjoined rfl _) answers
    exact absurd undisturbed (by decide +kernel)
  · have orderable : Select.Orderable (postsBy [.column "id" .asc]).orderBy
        ((postsBy [.column "id" .asc]).statement.matched viewedPosts) := by
      intro name direction mem
      cases List.mem_singleton.1 mem
      exact ⟨.integer, by decide +kernel⟩
    have undisturbed := undisturbed_of_answersLeading opened
      (loadable_of_loads rfl _) ⟨rfl, rfl, rfl, rfl, rfl⟩ (by decide) orderable (kinds _)
      (ownColumn_of_unjoined rfl _) answers
    exact absurd undisturbed (by decide +kernel)

end Query

end EntityStore
