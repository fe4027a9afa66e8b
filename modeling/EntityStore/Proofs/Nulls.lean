import EntityStore.Proofs.KeyValues
import EntityStore.Proofs.Predicates

/-!
# Nulls in stores and in SQL

A store answers a condition with true or false, SQL with three truth values. On columns that hold
null or values of one kind both take a row in the same cases, whatever nulls the column, the bounds
and the lists hold, but for one condition: that a column has none of some values. There a store takes
a row although the list holds a null, and leaves out a row without a value although the list is empty
(`Condition.PartsOnNull`). Main result: `Sql.conditionPieces_agrees_iff`.
-/

namespace EntityStore

/-- The kinds of values that stores and SQL order alike. -/
inductive Kind where
  | text
  | boolean
  | integer

/-- The value is null or one of the kind. Integers have at most 53 bits. -/
inductive Kind.Has : Kind → Value → Prop where
  | null {kind : Kind} : kind.Has .null
  | text (s : String) : Kind.text.Has (.text s)
  | bool (b : Bool) : Kind.boolean.Has (.bool b)
  | int {n : Int} (small : Binary64.IsSmall n) : Kind.integer.Has (.int n)

namespace Kind.Has

variable {kind : Kind} {v w : Value}

/-- Values of one kind are compared as SQL orders them, and null with nothing. -/
theorem compare?_eq (hv : kind.Has v) (hw : kind.Has w) : v.compare? w = Sql.order? v w := by
  cases hv with
  | null => cases hw <;> rfl
  | text s => cases hw <;> rfl
  | bool b => cases hw <;> rfl
  | int hm =>
    cases hw with
    | null => rfl
    | int hn => exact Value.compare?_int hm hn

/-- A comparison holds in a store exactly when SQL finds it true. -/
theorem holds_iff (hv : kind.Has v) (hw : kind.Has w) (operator : Operator)
    (ordering : operator ≠ .like ∧ operator ≠ .notLike) :
    operator.holds v w = true ↔ Sql.comparison operator v w = .holds := by
  have accepts : ∀ o : Ordering, operator.accepts o = Sql.meets o operator := by
    intro o
    cases operator <;> cases o <;> rfl
  have compared : operator.holds v w = ((v.compare? w).map operator.accepts).getD false := by
    cases operator
    case like => exact absurd rfl ordering.1
    case notLike => exact absurd rfl ordering.2
    all_goals rfl
  rw [compared, hv.compare?_eq hw]
  unfold Sql.comparison
  cases Sql.order? v w with
  | none => simp
  | some o => simp [accepts]

theorem looseEq_iff (hv : kind.Has v) (hw : kind.Has w) :
    v.looseEq w = true ↔ Sql.comparison .eq v w = .holds := by
  rw [← hv.holds_iff hw .eq ⟨by decide, by decide⟩]
  change (v.compare? w == some .eq) = true ↔
    ((v.compare? w).map fun o => Operator.accepts o .eq).getD false = true
  cases v.compare? w with
  | none => simp
  | some o => cases o <;> decide

/-- Values of one kind are equal in SQL when they are the same and not null. -/
theorem comparison_eq_holds (hv : kind.Has v) (hw : kind.Has w) :
    Sql.comparison .eq v w = .holds ↔ v ≠ .null ∧ v = w := by
  cases hv with
  | null => cases hw <;> simp [Sql.comparison, Sql.order?]
  | text s => cases hw <;> simp [Sql.comparison, Sql.order?, Sql.meets]
  | bool b => cases hw <;> simp [Sql.comparison, Sql.order?, Sql.meets]
  | int hm => cases hw <;> simp [Sql.comparison, Sql.order?, Sql.meets, Value.int]

/-- They are unequal when they differ and neither is null. -/
theorem comparison_eq_fails (hv : kind.Has v) (hw : kind.Has w) :
    Sql.comparison .eq v w = .fails ↔ v ≠ .null ∧ w ≠ .null ∧ v ≠ w := by
  cases hv with
  | null => cases hw <;> simp [Sql.comparison, Sql.order?]
  | text s => cases hw <;> simp [Sql.comparison, Sql.order?, Sql.meets]
  | bool b => cases hw <;> simp [Sql.comparison, Sql.order?, Sql.meets]
  | int hm => cases hw <;> simp [Sql.comparison, Sql.order?, Sql.meets, Value.int]

/-- A value is one of a list in SQL when it is not null and stands in the list. -/
theorem membership_holds (hv : kind.Has v) {values : List Value} (hw : ∀ w ∈ values, kind.Has w) :
    Sql.membershipTruth v values = .holds ↔ v ≠ .null ∧ v ∈ values := by
  induction values with
  | nil => simp [Sql.membershipTruth]
  | cons w rest ih =>
    rw [List.forall_mem_cons] at hw
    rw [Sql.membershipTruth, Sql.Truth.or_eq_holds, hv.comparison_eq_holds hw.1, ih hw.2,
      List.mem_cons]
    tauto

/-- It is none of them when no null is about and it differs from all. -/
theorem membership_fails (hv : kind.Has v) {values : List Value} (hw : ∀ w ∈ values, kind.Has w) :
    Sql.membershipTruth v values = .fails ↔
      values = [] ∨ v ≠ .null ∧ .null ∉ values ∧ v ∉ values := by
  induction values with
  | nil => simp [Sql.membershipTruth]
  | cons w rest ih =>
    rw [List.forall_mem_cons] at hw
    rw [Sql.membershipTruth, Sql.Truth.or_eq_fails, hv.comparison_eq_fails hw.1, ih hw.2,
      List.mem_cons, List.mem_cons]
    have symmetric : w ≠ .null ↔ .null ≠ w := ne_comm
    rcases eq_or_ne rest [] with rfl | filled
    · simp
      tauto
    · simp only [filled, false_or, reduceCtorEq]
      tauto

/-- What a store asks of a member. -/
theorem any_looseEq (hv : kind.Has v) {values : List Value} (hw : ∀ w ∈ values, kind.Has w) :
    values.any v.looseEq = true ↔ v ≠ .null ∧ v ∈ values := by
  rw [List.any_eq_true]
  constructor
  · rintro ⟨w, mem, equal⟩
    have same := (hv.comparison_eq_holds (hw w mem)).1 ((hv.looseEq_iff (hw w mem)).1 equal)
    exact ⟨same.1, same.2 ▸ mem⟩
  · rintro ⟨filled, mem⟩
    exact ⟨v, mem, (hv.looseEq_iff hv).2 ((hv.comparison_eq_holds hv).2 ⟨filled, rfl⟩)⟩

end Kind.Has

theorem Value.isNull_iff {v : Value} : v.isNull = true ↔ v = .null := by
  cases v <;> simp [isNull]

namespace Store

variable (store : Store) {scope : Scope} {kind : Kind} {column : String} {values : List Value}
  (hv : kind.Has (scope.lookup column)) (hw : ∀ w ∈ values, kind.Has w)
include hv hw

/-- A store takes a row for one of some values when the row has one of them. -/
theorem satisfies_isIn_iff : store.satisfies scope (.isIn column values) = true ↔
    scope.lookup column ≠ .null ∧ scope.lookup column ∈ values := by
  rw [satisfies, Bool.and_eq_true, Bool.not_eq_true', Bool.eq_false_iff, Ne, Value.isNull_iff,
    hv.any_looseEq hw]
  tauto

/-- A store takes a row for none of some values when the row has another one. -/
theorem satisfies_notIn_iff : store.satisfies scope (.notIn column values) = true ↔
    scope.lookup column ≠ .null ∧ scope.lookup column ∉ values := by
  rw [satisfies, Bool.and_eq_true, Bool.not_eq_true', Bool.not_eq_true', Bool.eq_false_iff,
    Bool.eq_false_iff, Ne, Ne, Value.isNull_iff, hv.any_looseEq hw]
  tauto

end Store

/-- The nulls on which store and SQL part: a column is to have none of some values, and it has no
value while the list is empty, or the list has a null but not its value. -/
def Condition.PartsOnNull (v : Value) : Condition → Prop
  | .notIn _ values => v = .null ∧ values = [] ∨ v ≠ .null ∧ .null ∈ values ∧ v ∉ values
  | _ => False

namespace Sql

variable {store : Store} {scope : Scope} {row : String → Value} {c : Condition} {column name : String}
  {values : List Value} {kind : Kind}

/-- A condition is true in a store exactly when its predicate is true in SQL, but for the conditions
that part on nulls. -/
theorem satisfies_iff_eval (operands : c.operands? = some (column, values))
    (kinds : ∀ v ∈ scope.lookup column :: values, kind.Has v) {predicate : Predicate}
    (asked : Predicate.ofCondition? name c = some predicate) (same : row name = scope.lookup column) :
    (store.satisfies scope c = true ↔ predicate.eval row = .holds) ↔
      ¬ c.PartsOnNull (scope.lookup column) := by
  rw [List.forall_mem_cons] at kinds
  obtain ⟨hv, hw⟩ := kinds
  cases c with
  | compare column' operator value =>
    obtain ⟨ordering, rfl, rfl⟩ := Condition.operands_compare operands
    rw [Predicate.ofCondition?_compare name column' value ordering] at asked
    cases asked
    rw [Store.satisfies, Predicate.eval, same]
    have meets := hv.holds_iff (hw value List.mem_cons_self) operator ordering
    simp [Condition.PartsOnNull, meets]
  | columns first operator second => cases operands
  | isIn column' values =>
    cases operands
    cases asked
    rw [store.satisfies_isIn_iff hv hw]
    cases empty : values.isEmpty with
    | true =>
      rw [List.isEmpty_iff] at empty
      simp [empty, Predicate.eval, Condition.PartsOnNull]
    | false =>
      simp [Predicate.eval, Condition.PartsOnNull, same, hv.membership_holds hw]
  | notIn column' values =>
    cases operands
    cases asked
    rw [store.satisfies_notIn_iff hv hw]
    cases empty : values.isEmpty with
    | true =>
      rw [List.isEmpty_iff] at empty
      simp [empty, Predicate.eval, Condition.PartsOnNull]
    | false =>
      rw [List.isEmpty_eq_false_iff] at empty
      simp only [Bool.false_eq_true, if_false, Predicate.eval, if_true, Truth.not_eq_holds, same,
        hv.membership_fails hw, Condition.PartsOnNull, empty, false_or, and_false]
      tauto
  | isNull column' =>
    cases operands
    cases asked
    simp [Store.satisfies, Predicate.eval, Condition.PartsOnNull, same]
  | notNull column' =>
    cases operands
    cases asked
    simp [Store.satisfies, Predicate.eval, Condition.PartsOnNull, same]
  | between column' low high =>
    cases operands
    cases asked
    have lower := hv.holds_iff (hw low List.mem_cons_self) .ge ⟨by decide, by decide⟩
    have upper := hv.holds_iff (hw high (List.mem_cons_of_mem _ List.mem_cons_self)) .le
      ⟨by decide, by decide⟩
    rw [Store.satisfies, Bool.and_eq_true, lower, upper, Predicate.eval, Truth.and_eq_holds, same]
    simp [Condition.PartsOnNull]
  | group tree => cases operands
  | related negated inner correlation tree => cases operands

/-- A condition that is rendered although its column is refused is a constant. -/
theorem constant_of_unnamed {types : ColumnTypes} {table : String} {having : Bool} {e : Error}
    {pieces : List Piece} (operands : c.operands? = some (column, values))
    (unnamed : columnText having column = .error e)
    (rendered : conditionPieces types table having c = .ok pieces) :
    ∃ b, Predicate.read (lexemes pieces) = some (.constant b) ∧
      ∀ name, Predicate.ofCondition? name c = some (.constant b) := by
  have empty : ∀ operator empty, membership types table having column values operator empty =
      .ok pieces → values = [] ∧ pieces = [.text empty] := by
    intro operator empty given
    unfold membership at given
    split at given
    · next none =>
      cases given
      exact ⟨List.isEmpty_iff.1 none, rfl⟩
    · rw [unnamed] at given
      cases given
  cases c with
  | compare column' operator value =>
    obtain ⟨-, rfl, -⟩ := Condition.operands_compare operands
    unfold conditionPieces at rendered
    rw [unnamed] at rendered
    cases rendered
  | columns first operator second => cases operands
  | isIn column' values =>
    cases operands
    unfold conditionPieces at rendered
    obtain ⟨rfl, rfl⟩ := empty _ _ rendered
    exact ⟨false, rfl, fun _ => rfl⟩
  | notIn column' values =>
    cases operands
    unfold conditionPieces at rendered
    obtain ⟨rfl, rfl⟩ := empty _ _ rendered
    exact ⟨true, rfl, fun _ => rfl⟩
  | isNull column' | notNull column' | between column' low high =>
    cases operands
    unfold conditionPieces at rendered
    rw [unnamed] at rendered
    cases rendered
  | group tree => cases operands
  | related negated inner correlation tree => cases operands

/-- **Nulls in stores and in SQL.** A condition on a column that holds null or values of one kind, with
such values and lists of any length, reads in SQL as a predicate. The predicate is true of the rows
that a store takes, and of no others, unless the condition asks for none of some values and parts on
nulls; then it does not. The column is one of a row, so it carries no new name after `as`, and a row
has under the name that SQL reads what the store looks up. -/
theorem conditionPieces_agrees_iff {types : ColumnTypes} {table : String} {having : Bool}
    (operands : c.operands? = some (column, values))
    (kinds : ∀ v ∈ scope.lookup column :: values, kind.Has v)
    (plain : (splitAs column.toList).2 = none)
    (seen : ∀ name, columnText having column = .ok name → row name = scope.lookup column)
    {pieces : List Piece} (rendered : conditionPieces types table having c = .ok pieces) :
    ∃ predicate, Predicate.read (lexemes pieces) = some predicate ∧
      ((store.satisfies scope c = true ↔ predicate.eval row = .holds) ↔
        ¬ c.PartsOnNull (scope.lookup column)) := by
  cases named : columnText having column with
  | ok name =>
    obtain ⟨pieces', predicate, rendered', read, asked⟩ :=
      conditionPieces_read types table having named (columnText_solid named plain) operands
    cases rendered.symm.trans rendered'
    exact ⟨predicate, read, satisfies_iff_eval operands kinds asked (seen name named)⟩
  | error e =>
    obtain ⟨b, read, asked⟩ := constant_of_unnamed operands named rendered
    refine ⟨.constant b, read, ?_⟩
    -- A constant asks nothing of the row, so any row does that has the value.
    change (_ ↔ Predicate.eval (fun _ => scope.lookup column) (.constant b) = .holds) ↔ _
    exact satisfies_iff_eval operands kinds (asked column) rfl

/-- A row with a number. -/
def numbered (v : Value) : Scope :=
  .ofRow "items" (.ofFields [("n", v)])

/-- The conditions on the number 1 and on a missing number, that it is none of 2 and null and that it
is none of no values: a store takes the first row for a condition that SQL does not find true, and
leaves the second one out for a condition that SQL finds true. -/
theorem not_agrees_numbered :
    (∃ pieces predicate,
      conditionPieces {} "items" false (.notIn "n" [.int 2, .null]) = .ok pieces ∧
      Predicate.read (lexemes pieces) = some predicate ∧
      ({} : Store).satisfies (numbered (.int 1)) (.notIn "n" [.int 2, .null]) = true ∧
      predicate.eval (numbered (.int 1)).lookup = .unknown) ∧
    ∃ pieces predicate,
      conditionPieces {} "items" false (.notIn "n" []) = .ok pieces ∧
      Predicate.read (lexemes pieces) = some predicate ∧
      ({} : Store).satisfies (numbered .null) (.notIn "n" []) = false ∧
      predicate.eval (numbered .null).lookup = .holds := by
  refine ⟨⟨_, _, rfl, rfl, ?_, ?_⟩, ⟨_, _, rfl, rfl, ?_, ?_⟩⟩
  all_goals decide +kernel

/-- The number 7 is none of 2 and 5, in a store as in SQL. -/
theorem agrees_numbered :
    ∃ pieces predicate,
      conditionPieces {} "items" false (.notIn "n" [.int 2, .int 5]) = .ok pieces ∧
      Predicate.read (lexemes pieces) = some predicate ∧
      (({} : Store).satisfies (numbered (.int 7)) (.notIn "n" [.int 2, .int 5]) = true ↔
        predicate.eval (numbered (.int 7)).lookup = .holds) := by
  have rendered : conditionPieces {} "items" false (.notIn "n" [.int 2, .int 5]) =
      .ok [.text "n NOT IN (", .value (.int 2) none, .text ", ", .value (.int 5) none, .text ")"] := by
    rfl
  have named : columnText false "n" = .ok "n" := by rfl
  have kinds : ∀ v ∈ (numbered (.int 7)).lookup "n" :: [.int 2, .int 5], Kind.integer.Has v := by
    have seven : (numbered (.int 7)).lookup "n" = .int 7 := by rfl
    rw [seven]
    simp only [List.forall_mem_cons]
    exact ⟨.int (by decide), .int (by decide), .int (by decide), fun _ h => nomatch h⟩
  have seen : ∀ name, columnText false "n" = .ok name →
      (numbered (.int 7)).lookup name = (numbered (.int 7)).lookup "n" := by
    intro name same
    rw [named] at same
    cases same
    rfl
  obtain ⟨predicate, read, agree⟩ := conditionPieces_agrees_iff rfl kinds (by rfl) seen rendered
  refine ⟨_, predicate, rendered, read, agree.2 ?_⟩
  have listed : Value.null ∉ [Value.int 2, .int 5] := by decide
  rintro (⟨-, none⟩ | ⟨-, null, -⟩)
  · cases none
  · exact listed null

end Sql

end EntityStore
