import EntityStore.Proofs.LooseEquality

/-!
# Groups

Scopes are counted into groups one after the other. A scope that opens a group takes all later ones
with the same values along, and the others are grouped as if these had not been there
(`Select.groups_cons`). Equality of stored values is an equivalence (`Value.sameList_trans`; of itself
for finite numbers, `Value.sameList_self`), so the groups are its classes, each behind its first
scope. Main result: `Select.groupScopes_partition`.
-/

namespace EntityStore

/-! ### Equality of three values -/

theorem Binary64.same_iff {x y : Binary64} : x.same y = true ↔
    (∃ negative, x = .infinite negative ∧ y = .infinite negative) ∨
      (x.isFinite = true ∧ y.isFinite = true ∧ x.units = y.units) := by
  unfold same
  cases x with
  | nan => cases y <;> simp [compare?, isFinite]
  | infinite a =>
    cases y with
    | infinite b => cases a <;> cases b <;> simp [compare?, isFinite]
    | nan => simp [compare?, isFinite]
    | finite n | negativeZero => cases a <;> simp [compare?, isFinite]
  | finite m | negativeZero =>
    cases y with
    | infinite b => cases b <;> simp [compare?, isFinite]
    | nan => simp [compare?, isFinite]
    | finite n | negativeZero => simp [compare?, isFinite, units]

theorem Binary64.same_trans {x y z : Binary64} (first : x.same y = true) (second : y.same z = true) :
    x.same z = true := by
  rw [same_iff] at first second ⊢
  rcases first with ⟨negative, rfl, rfl⟩ | ⟨hx, hy, same⟩
  · rcases second with ⟨_, ⟨⟩, rfl⟩ | ⟨absurd, -⟩
    · exact .inl ⟨_, rfl, rfl⟩
    · cases absurd
  · rcases second with ⟨_, rfl, rfl⟩ | ⟨-, hz, same'⟩
    · cases hy
    · exact .inr ⟨hx, hz, same.trans same'⟩

theorem Number.same_trans {l m n : Number} (first : l.same m = true) (second : m.same n = true) :
    l.same n = true := by
  cases l with
  | int a =>
    cases m with
    | float _ => cases first
    | int b =>
      rw [show a = b from beq_iff_eq.1 first]
      exact second
  | float x =>
    cases m with
    | int _ => cases first
    | float y =>
      cases n with
      | int _ => cases second
      | float z => exact Binary64.same_trans first second

namespace Value

mutual

theorem same_trans : ∀ {u v w : Value}, u.same v = true → v.same w = true → u.same w = true
  | .null, .null, .null, _, _ => rfl
  | .number l, .number m, .number n, first, second => Number.same_trans (m := m) first second
  | .text _, .text _, .text _, first, second | .bool _, .bool _, .bool _, first, second =>
    beq_iff_eq.2 ((beq_iff_eq.1 first).trans (beq_iff_eq.1 second))
  | .list us, .list vs, .list ws, first, second => @sameList_trans us vs ws first second
  | .object fs, .object gs, .object hs, first, second => @sameFields_trans fs gs hs first second

theorem sameList_trans : ∀ {us vs ws : List Value}, sameList us vs = true →
    sameList vs ws = true → sameList us ws = true
  | [], [], [], _, _ => rfl
  | u :: us, v :: vs, w :: ws, first, second => by
    rw [sameList, Bool.and_eq_true] at first second ⊢
    exact ⟨same_trans first.1 second.1, sameList_trans first.2 second.2⟩

theorem sameFields_trans : ∀ {fs gs hs : List (String × Value)}, sameFields fs gs = true →
    sameFields gs hs = true → sameFields fs hs = true
  | [], [], [], _, _ => rfl
  | (a, u) :: fs, (b, v) :: gs, (c, w) :: hs, first, second => by
    rw [sameFields, Bool.and_eq_true, Bool.and_eq_true, beq_iff_eq] at first second ⊢
    exact ⟨⟨first.1.1.trans second.1.1, same_trans first.1.2 second.1.2⟩,
      sameFields_trans first.2 second.2⟩

end

theorem allFinite_iff {vs : List Value} : allFinite vs = true ↔ ∀ v ∈ vs, v.isFinite = true := by
  induction vs with
  | nil => simp [allFinite]
  | cons v rest ih => rw [allFinite, Bool.and_eq_true, ih, List.forall_mem_cons]

end Value

/-- The scope of a group with the size of the group as a further column. -/
def Scope.counted (scope : Scope) (size : Nat) : Scope :=
  { scope with columns := scope.columns.insert groupCountAlias (.int size) }

theorem Scope.lookup_counted (scope : Scope) (size : Nat) :
    (scope.counted size).lookup groupCountAlias = .int size := by
  unfold counted lookup
  rw [Row.get?_insert_self]
  rfl

namespace Select

/-! ### Scopes that agree -/

/-- The two scopes have the same values in the columns. -/
def agree (columns : List String) (a b : Scope) : Bool :=
  Value.sameList (columns.map a.lookup) (columns.map b.lookup)

variable {columns : List String} {a b c : Scope}

theorem agree_self (finite : ∀ column ∈ columns, (a.lookup column).isFinite = true) :
    agree columns a a = true :=
  Value.sameList_self (Value.allFinite_iff.2 (List.forall_mem_map.2 finite))

theorem agree_comm (a b : Scope) : agree columns a b = agree columns b a :=
  Value.sameList_comm _ _

theorem agree_trans (first : agree columns a b = true) (second : agree columns b c = true) :
    agree columns a c = true :=
  Value.sameList_trans first second

/-- What agrees with a scope of another group is not in the group. -/
theorem not_agree_of_agree (apart : agree columns a b = false) (same : agree columns b c = true) :
    agree columns a c = false := by
  rw [← Bool.not_eq_true] at apart ⊢
  exact fun together => apart (agree_trans together (agree_comm b c ▸ same))

/-! ### Groups as classes -/

/-- The scopes that agree with none before them. -/
def firsts (columns : List String) (scopes : List Scope) : List Scope :=
  scopes.eraseDupsBy fun later earlier => agree columns earlier later

/-- The number of scopes that agree with a scope. -/
def classSize (columns : List String) (scopes : List Scope) (scope : Scope) : Nat :=
  scopes.countP (agree columns scope)

/-- The scopes that are left when those that agree with one are taken out. -/
def others (columns : List String) (scope : Scope) (scopes : List Scope) : List Scope :=
  scopes.filter fun other => !agree columns scope other

/-- What holds of the scopes that are left when a class is taken out holds of all scopes. -/
theorem others_induction (columns : List String) {P : List Scope → Prop} (nil : P [])
    (cons : ∀ scope rest, P (others columns scope rest) → P (scope :: rest)) :
    ∀ scopes, P scopes
  | [] => nil
  | scope :: rest => cons scope rest (others_induction columns nil cons (others columns scope rest))
termination_by scopes => scopes.length
decreasing_by exact Nat.lt_succ_of_le (List.length_filter_le _ _)

theorem forall_mem_others {P : Scope → Prop} {scopes : List Scope} (all : ∀ other ∈ scopes, P other)
    (scope : Scope) : ∀ other ∈ others columns scope scopes, P other :=
  fun other mem => all other (List.mem_filter.1 mem).1

theorem firsts_cons (scope : Scope) (rest : List Scope) :
    firsts columns (scope :: rest) = scope :: firsts columns (others columns scope rest) := by
  unfold firsts others
  rw [List.eraseDupsBy_cons]
  congr 3
  funext other
  cases agree columns scope other <;> rfl

/-- A scope is counted into the first group if it agrees with it. -/
theorem addToGroups_cons (first scope : Scope) (n : Nat) (done : List (List Value × Scope × Nat)) :
    addToGroups (columns.map scope.lookup) scope ((columns.map first.lookup, first, n) :: done) =
      if agree columns first scope then (columns.map first.lookup, first, n + 1) :: done
      else (columns.map first.lookup, first, n) ::
        addToGroups (columns.map scope.lookup) scope done :=
  rfl

/-- The first group takes its class out of what is grouped. -/
theorem foldl_addToGroups (first : Scope) (n : Nat) (done : List (List Value × Scope × Nat))
    (scopes : List Scope) :
    scopes.foldl (fun done scope => addToGroups (columns.map scope.lookup) scope done)
        ((columns.map first.lookup, first, n) :: done) =
      (columns.map first.lookup, first, n + classSize columns scopes first) ::
        (others columns first scopes).foldl
          (fun done scope => addToGroups (columns.map scope.lookup) scope done) done := by
  unfold classSize others
  induction scopes generalizing n done with
  | nil => rfl
  | cons scope rest ih =>
    rw [List.foldl_cons, addToGroups_cons]
    by_cases same : agree columns first scope = true
    · rw [if_pos same, ih, List.countP_cons_of_pos same, List.filter_cons_of_neg (by simp [same]),
        Nat.add_assoc, Nat.add_comm 1]
    · rw [if_neg same, ih, List.countP_cons_of_neg same, List.filter_cons_of_pos (by simp [same]),
        List.foldl_cons]

/-- A scope opens a group for all that agree with it. -/
theorem groups_cons (scope : Scope) (rest : List Scope) :
    groups columns (scope :: rest) =
      (columns.map scope.lookup, scope, 1 + classSize columns rest scope) ::
        groups columns (others columns scope rest) :=
  foldl_addToGroups scope 1 [] rest

theorem sublist_firsts (scopes : List Scope) : (firsts columns scopes).Sublist scopes := by
  induction scopes using others_induction columns with
  | nil => exact .slnil
  | cons scope rest ih =>
    rw [firsts_cons]
    exact (ih.trans List.filter_sublist).cons_cons scope

/-- The first scopes of the other classes are outside the class that was taken out. -/
theorem not_agree_of_mem_firsts {scope first : Scope} {rest : List Scope}
    (mem : first ∈ firsts columns (others columns scope rest)) :
    agree columns scope first = false := by
  have kept := (List.mem_filter.1 ((sublist_firsts _).subset mem)).2
  simpa using kept

section

variable {scope first : Scope} {rest : List Scope} (apart : agree columns scope first = false)

include apart

theorem outside_of_apart : ¬agree columns first scope = true := by
  rw [agree_comm, apart]
  exact Bool.false_ne_true

/-- Taking out another class leaves the class as it is. -/
theorem agree_and_others :
    (fun other => !agree columns scope other && agree columns first other) = agree columns first := by
  funext other
  cases same : agree columns first other with
  | false => rw [Bool.and_false]
  | true => rw [not_agree_of_agree apart same, Bool.not_false, Bool.and_true]

theorem classSize_others :
    classSize columns (others columns scope rest) first = classSize columns (scope :: rest) first := by
  unfold classSize others
  rw [List.countP_filter, List.countP_cons_of_neg (outside_of_apart apart)]
  refine List.countP_congr fun other _ => ?_
  rw [Bool.and_comm, congrFun (agree_and_others apart) other]

theorem find?_others :
    (others columns scope rest).find? (agree columns first) =
      (scope :: rest).find? (agree columns first) := by
  unfold others
  rw [List.find?_filter, List.find?_cons_of_neg (outside_of_apart apart)]
  refine List.find?_congr fun other _ => ?_
  rw [← congrFun (agree_and_others apart) other]
  simp

end

/-- Every group holds the values of its class, the first scope and the size. -/
theorem groups_eq {scopes : List Scope}
    (finite : ∀ scope ∈ scopes, ∀ column ∈ columns, (scope.lookup column).isFinite = true) :
    groups columns scopes = (firsts columns scopes).map fun first =>
      (columns.map first.lookup, first, classSize columns scopes first) := by
  induction scopes using others_induction columns with
  | nil => rfl
  | cons scope rest ih =>
    rw [List.forall_mem_cons] at finite
    have own : classSize columns (scope :: rest) scope = 1 + classSize columns rest scope := by
      rw [classSize, List.countP_cons_of_pos (agree_self finite.1), Nat.add_comm]
      rfl
    rw [groups_cons, firsts_cons, List.map_cons, own,
      ih (forall_mem_others finite.2 scope)]
    refine congrArg _ (List.map_congr_left fun first mem => ?_)
    rw [classSize_others (not_agree_of_mem_firsts mem)]

/-- The scopes fall into classes of those that agree. Each class is answered by its first scope with
the size of the class as a further column, in the order of the first scopes. -/
structure Partitioned (columns : List String) (scopes answered : List Scope) : Prop where
  answers : answered = (firsts columns scopes).map fun first =>
    first.counted (classSize columns scopes first)
  counts : answered.map (·.lookup groupCountAlias) =
    ((firsts columns scopes).map (classSize columns scopes)).map fun size => .int size
  ordered : (firsts columns scopes).Sublist scopes
  foremost : ∀ first ∈ firsts columns scopes, scopes.find? (agree columns first) = some first
  apart : (firsts columns scopes).Pairwise fun a b => agree columns a b = false
  covers : ∀ scope ∈ scopes, ∃ first ∈ firsts columns scopes, agree columns first scope = true
  occupied : ∀ first ∈ firsts columns scopes, 0 < classSize columns scopes first
  total : ((firsts columns scopes).map (classSize columns scopes)).sum = scopes.length

variable {scopes : List Scope}

theorem pairwise_firsts (scopes : List Scope) :
    (firsts columns scopes).Pairwise fun a b => agree columns a b = false := by
  induction scopes using others_induction columns with
  | nil => exact .nil
  | cons scope rest ih =>
    rw [firsts_cons]
    exact .cons (fun first mem => not_agree_of_mem_firsts mem) ih

section

variable (finite : ∀ scope ∈ scopes, ∀ column ∈ columns, (scope.lookup column).isFinite = true)

include finite

theorem find?_of_mem_firsts :
    ∀ first ∈ firsts columns scopes, scopes.find? (agree columns first) = some first := by
  induction scopes using others_induction columns with
  | nil => exact List.forall_mem_nil _
  | cons scope rest ih =>
    rw [List.forall_mem_cons] at finite
    rw [firsts_cons, List.forall_mem_cons]
    refine ⟨List.find?_cons_of_pos (agree_self finite.1), fun first mem => ?_⟩
    rw [← find?_others (not_agree_of_mem_firsts mem)]
    exact ih (forall_mem_others finite.2 scope) first mem

theorem exists_first :
    ∀ scope ∈ scopes, ∃ first ∈ firsts columns scopes, agree columns first scope = true := by
  induction scopes using others_induction columns with
  | nil => exact List.forall_mem_nil _
  | cons scope rest ih =>
    rw [List.forall_mem_cons] at finite
    have later := ih (forall_mem_others finite.2 scope)
    rw [firsts_cons, List.forall_mem_cons]
    refine ⟨⟨scope, List.mem_cons_self, agree_self finite.1⟩, fun other mem => ?_⟩
    by_cases same : agree columns scope other = true
    · exact ⟨scope, List.mem_cons_self, same⟩
    · obtain ⟨first, among, together⟩ := later other (List.mem_filter.2 ⟨mem, by simp [same]⟩)
      exact ⟨first, List.mem_cons_of_mem _ among, together⟩

theorem sum_classSize :
    ((firsts columns scopes).map (classSize columns scopes)).sum = scopes.length := by
  induction scopes using others_induction columns with
  | nil => rfl
  | cons scope rest ih =>
    rw [List.forall_mem_cons] at finite
    have later := ih (forall_mem_others finite.2 scope)
    have sizes : (firsts columns (others columns scope rest)).map
        (classSize columns (scope :: rest)) =
        (firsts columns (others columns scope rest)).map
          (classSize columns (others columns scope rest)) :=
      List.map_congr_left fun first mem => (classSize_others (not_agree_of_mem_firsts mem)).symm
    have split := List.length_eq_length_filter_add (l := rest) (agree columns scope)
    rw [firsts_cons, List.map_cons, List.sum_cons, sizes, later, classSize,
      List.countP_cons_of_pos (agree_self finite.1), List.countP_eq_length_filter, List.length_cons,
      split]
    exact Nat.add_right_comm _ _ _

/-- **Grouping partitions the scopes: there is one answer for each class of scopes with the same
values in the columns, in the order in which the classes appear; it is the first scope of the class
but for the count, and the counts are the sizes of the classes.** -/
theorem groupScopes_partition : Partitioned columns scopes (groupScopes columns scopes) := by
  have answers : groupScopes columns scopes = (firsts columns scopes).map fun first =>
      first.counted (classSize columns scopes first) := by
    rw [groupScopes, groups_eq finite, List.map_map]
    rfl
  refine ⟨answers, ?_, sublist_firsts scopes, find?_of_mem_firsts finite, pairwise_firsts scopes,
    exists_first finite, fun first mem => ?_, sum_classSize finite⟩
  · rw [answers, List.map_map, List.map_map]
    exact List.map_congr_left fun first _ => first.lookup_counted _
  · have there := (sublist_firsts scopes).subset mem
    exact List.countP_pos_iff.2 ⟨first, there, agree_self (finite first there)⟩

end

/-- Rows with the two zeros, one as an integer and as a number of binary64, and no value at all. -/
def measured : List Scope :=
  [.number (.float .zero), .int 1, .number (.float .negativeZero),
    .number (.float (.finite Binary64.one)), .null].map
    fun v => .ofRow "samples" (Row.empty.insert "size" v)

theorem groupScopes_partition_measured :
    (∀ scope ∈ measured, ∀ column ∈ ["size"], (scope.lookup column).isFinite = true) ∧
    Partitioned ["size"] measured (groupScopes ["size"] measured) ∧
    (groupScopes ["size"] measured).map (·.lookup groupCountAlias) =
      [.int 2, .int 1, .int 1, .int 1] := by
  have finite : ∀ scope ∈ measured, ∀ column ∈ ["size"],
      (scope.lookup column).isFinite = true := by decide +kernel
  exact ⟨finite, groupScopes_partition finite, by decide +kernel⟩

end Select

end EntityStore
