import EntityStore.Proofs.LooseEquality

/-!
# The order of mixed values

Two values are put in order as texts, as numbers, or not at all, depending on what they are
(`Value.Shape.scale?`). Values that all meet on one scale have ranks on it, so there the order is
transitive; the values of different scales give it no ranks, as `"10"`, `"9"` and `9.5` show.
Exchanging two values turns their order around, whatever they are (`Value.order_swap`). Main result:
for values of which shapes the order is a total preorder (`Value.ordersTotally_iff`), and so what a
column may hold to be sorted consistently (`Value.Shape.consistent_column`).
-/

namespace EntityStore

namespace Value

/-- What a value is to the order: texts that read as numbers are numerals, all others words. -/
inductive Shape where
  | null
  | boolean
  | number
  | numeral
  | word
  | composite
deriving DecidableEq, Repr

instance : Fintype Shape where
  elems := {.null, .boolean, .number, .numeral, .word, .composite}
  complete f := by cases f <;> decide

/-- What the values of two shapes are compared by. -/
inductive Scale where
  | textual
  | numeric
deriving DecidableEq, Repr

/-- The number that a text reads as; NaN is none. -/
def numeral? (s : String) : Option Binary64 :=
  (Binary64.ofText? s).filter (· ≠ .nan)

/-- The shape of a value. -/
def shape : Value → Shape
  | .null => .null
  | .bool _ => .boolean
  | .number _ => .number
  | .text s => if (numeral? s).isSome then .numeral else .word
  | .list _ | .object _ => .composite

namespace Shape

/-- Texts meet as texts, numbers and booleans as numbers, and numbers meet numerals as numbers. All
others are not compared. -/
def scale? : Shape → Shape → Option Scale
  | .numeral, .numeral | .numeral, .word | .word, .numeral | .word, .word => some .textual
  | .number, .number | .number, .boolean | .boolean, .number | .boolean, .boolean
  | .number, .numeral | .numeral, .number => some .numeric
  | _, _ => none

/-- Values of the shape are read as numbers. -/
def isRead : Shape → Bool
  | .boolean | .number | .numeral => true
  | .null | .word | .composite => false

theorem isRead_of_scale? : ∀ {f g : Shape}, f.scale? g = some .numeric →
    f.isRead = true ∧ g.isRead = true := by
  decide

/-- Values of the three shapes are put in order consistently: null is among them, the outer two are
not compared, or all are compared on one scale. -/
def Consistent (f g h : Shape) : Prop :=
  f = .null ∨ g = .null ∨ h = .null ∨ f.scale? h = none ∨
    f.scale? g = f.scale? h ∧ g.scale? h = f.scale? h

instance (f g h : Shape) : Decidable (f.Consistent g h) :=
  inferInstanceAs (Decidable (_ ∨ _))

end Shape

/-- The order of the three values is one of a total preorder. -/
structure OrdersTotally (a b c : Value) : Prop where
  same : a.order a = .eq
  reversed : b.order a = (a.order b).swap
  transitive : a.order b ≠ .gt → b.order c ≠ .gt → a.order c ≠ .gt
  tied : a.order b = .eq → b.order c = .eq → a.order c = .eq

/-! ### Nulls and exchanged values -/

/-- Exchanging two values turns their order around, nulls included. -/
theorem order_swap (v w : Value) : w.order v = (v.order w).swap := by
  unfold order
  cases v.isNull <;> cases w.isNull
  · change (w.compare? v).getD .eq = ((v.compare? w).getD .eq).swap
    rw [compare?_swap v w]
    cases v.compare? w <;> rfl
  all_goals rfl

theorem order_self (v : Value) : v.order v = .eq := by
  have turned := v.order_swap v
  cases same : v.order v with
  | eq => rfl
  | lt | gt =>
    rw [same] at turned
    cases turned

theorem null_order_ne_gt {v : Value} : Value.null.order v ≠ .gt ↔ v = .null := by
  cases v <;> simp [order, isNull]

theorem order_null_ne_gt (v : Value) : v.order .null ≠ .gt := by
  cases v <;> simp [order, isNull]

theorem shape_eq_null {v : Value} : v.shape = .null ↔ v = .null := by
  cases v with
  | text s => cases read : (numeral? s).isSome <;> simp [shape, read]
  | null | bool _ | number _ | list _ | object _ => simp [shape]

theorem order_of_present {v w : Value} (hv : v.shape ≠ .null) (hw : w.shape ≠ .null) :
    v.order w = (v.compare? w).getD .eq := by
  cases v with
  | null => exact absurd rfl hv
  | bool _ | number _ | text _ | list _ | object _ =>
    cases w with
    | null => exact absurd rfl hw
    | bool _ | number _ | text _ | list _ | object _ => rfl

end Value

/-! ### The two scales -/

/-- The place of a number on the line from minus infinity to infinity. -/
def Binary64.place : Binary64 → WithBot (WithTop Int)
  | .finite n => ((n : WithTop Int) : WithBot (WithTop Int))
  | .negativeZero => ((0 : Int) : WithTop Int)
  | .infinite negative => if negative then ⊥ else ((⊤ : WithTop Int) : WithBot (WithTop Int))
  | .nan => ⊥

/-- Numbers are compared by their places. -/
theorem Binary64.compare?_place {x y : Binary64} (hx : x ≠ .nan) (hy : y ≠ .nan) :
    x.compare? y = some (compare x.place y.place) := by
  have whole (m n : Int) : Ord.compare m n =
      compare ((m : WithTop Int) : WithBot (WithTop Int)) ((n : WithTop Int)) := by
    have up : StrictMono fun n : Int => ((n : WithTop Int) : WithBot (WithTop Int)) :=
      fun _ _ less => WithBot.coe_lt_coe.2 (WithTop.coe_lt_coe.2 less)
    rw [← cmp_eq_compare, ← cmp_eq_compare, up.cmp_map_eq]
  have below (n : Int) : (⊥ : WithBot (WithTop Int)) < ((n : WithTop Int)) := WithBot.bot_lt_coe _
  have above (n : Int) : ((n : WithTop Int) : WithBot (WithTop Int)) < ((⊤ : WithTop Int)) :=
    WithBot.coe_lt_coe.2 (WithTop.coe_lt_top n)
  have ends : (⊥ : WithBot (WithTop Int)) < ((⊤ : WithTop Int)) := WithBot.bot_lt_coe _
  cases x with
  | nan => exact absurd rfl hx
  | infinite a =>
    cases y with
    | nan => exact absurd rfl hy
    | infinite b =>
      cases a <;> cases b
      · exact congrArg some (compare_eq_iff_eq.2 rfl).symm
      · exact congrArg some (compare_gt_iff_gt.2 ends).symm
      · exact congrArg some (compare_lt_iff_lt.2 ends).symm
      · exact congrArg some (compare_eq_iff_eq.2 rfl).symm
    | finite n =>
      cases a
      · exact congrArg some (compare_gt_iff_gt.2 (above n)).symm
      · exact congrArg some (compare_lt_iff_lt.2 (below n)).symm
    | negativeZero =>
      cases a
      · exact congrArg some (compare_gt_iff_gt.2 (above 0)).symm
      · exact congrArg some (compare_lt_iff_lt.2 (below 0)).symm
  | finite m | negativeZero =>
    cases y with
    | nan => exact absurd rfl hy
    | infinite b =>
      cases b
      · exact congrArg some (compare_lt_iff_lt.2 (above _)).symm
      · exact congrArg some (compare_gt_iff_gt.2 (below _)).symm
    | finite n | negativeZero => exact congrArg some (whole _ _)

/-- A number made of its units is not NaN. -/
theorem Binary64.ofUnits_ne_nan (negative : Bool) (units : Nat) :
    ofUnits negative units ≠ .nan := by
  unfold ofUnits
  split
  · nofun
  · split
    · cases negative <;> nofun
    · nofun

theorem Binary64.ofInt_ne_nan (n : Int) : ofInt n ≠ .nan := by
  unfold ofInt ofRatio
  exact ofUnits_ne_nan _ _

namespace Value

/-- The value is read as a number. -/
def Reads (v : Value) (x : Binary64) : Prop :=
  v.asFloat? = some x ∧ x ≠ .nan

/-- Numbers, booleans and numerals are read as numbers. -/
theorem exists_reads {v : Value} (finite : v.isFinite = true)
    (shape : v.shape.isRead = true) : ∃ x, v.Reads x := by
  cases v with
  | number n =>
    refine ⟨n.toFloat, rfl, ?_⟩
    cases n with
    | int n => exact Binary64.ofInt_ne_nan n
    | float x =>
      rintro rfl
      cases finite
  | bool b =>
    refine ⟨if b then .ofInt 1 else .zero, rfl, ?_⟩
    split
    · exact Binary64.ofInt_ne_nan 1
    · nofun
  | text s =>
    have read : (numeral? s).isSome = true := by
      by_contra unread
      rw [Value.shape, if_neg unread] at shape
      cases shape
    obtain ⟨x, found⟩ := Option.isSome_iff_exists.1 read
    obtain ⟨ofText, number⟩ := Option.filter_eq_some_iff.1 found
    exact ⟨x, ofText, of_decide_eq_true number⟩
  | null | list _ | object _ => cases shape

theorem shape_text (s : String) : (text s).shape = .numeral ∨ (text s).shape = .word := by
  cases read : (numeral? s).isSome <;> simp [shape, read]

/-- Texts meet as texts, whether they read as numbers or not. -/
theorem scale?_texts (s t : String) :
    (text s).shape.scale? (text t).shape = some .textual := by
  rcases shape_text s with read | read <;> rcases shape_text t with read' | read' <;>
    rw [read, read'] <;> rfl

/-- On the numeric scale values are compared by what they are read as. -/
theorem compare?_numeric {v w : Value} {x y : Binary64} (hv : v.Reads x) (hw : w.Reads y)
    (scale : v.shape.scale? w.shape = some .numeric) :
    v.compare? w = some (compare x.place y.place) := by
  have numbers
      (meets : v.compare? w = v.asFloat?.bind fun x => w.asFloat?.bind fun y => x.compare? y) :
      v.compare? w = some (compare x.place y.place) := by
    rw [meets, hv.1, hw.1]
    exact Binary64.compare?_place hv.2 hw.2
  cases v with
  | number m =>
    cases w with
    | number _ | bool _ | text _ => exact numbers rfl
    | null | list _ | object _ => cases scale
  | bool a =>
    cases w with
    | number _ => exact numbers rfl
    | bool b => exact numbers (by cases a <;> cases b <;> decide +kernel)
    | text t => rcases shape_text t with read | read <;> rw [read] at scale <;> cases scale
    | null | list _ | object _ => cases scale
  | text s =>
    cases w with
    | number _ => exact numbers rfl
    | text t =>
      rw [scale?_texts] at scale
      cases scale
    | bool _ | null | list _ | object _ =>
      rcases shape_text s with read | read <;> rw [read] at scale <;> cases scale
  | null | list _ | object _ => cases scale

/-- On the textual scale there are texts. -/
theorem exists_text {v w : Value} (scale : v.shape.scale? w.shape = some .textual) :
    ∃ s t, v = .text s ∧ w = .text t := by
  cases v with
  | text s =>
    cases w with
    | text t => exact ⟨s, t, rfl, rfl⟩
    | number _ | bool _ | null | list _ | object _ =>
      rcases shape_text s with read | read <;> rw [read] at scale <;> cases scale
  | number _ | bool _ =>
    cases w with
    | text t => rcases shape_text t with read | read <;> rw [read] at scale <;> cases scale
    | number _ | bool _ | null | list _ | object _ => cases scale
  | null | list _ | object _ => cases scale

/-- A word is not read as a number, or as NaN. -/
theorem asFloat?_word {s : String} (word : (text s).shape = .word) :
    (text s).asFloat? = none ∨ (text s).asFloat? = some .nan := by
  change Binary64.ofText? s = none ∨ Binary64.ofText? s = some .nan
  cases read : Binary64.ofText? s with
  | none => exact .inl rfl
  | some x =>
    right
    by_contra number
    have found : (numeral? s).isSome = true := by
      have isNumber : x ≠ .nan := fun same => number (congrArg some same)
      rw [numeral?, read, Option.filter_some, decide_eq_true isNumber]
      rfl
    rw [shape, if_pos found] at word
    cases word

/-- Values without a scale are equal in the order. -/
theorem compare?_unscaled {v w : Value} (scale : v.shape.scale? w.shape = none) :
    (v.compare? w).getD .eq = .eq := by
  have data (meets : v.compare? w = if v.same w then some .eq else none) :
      (v.compare? w).getD .eq = .eq := by
    rw [meets]
    split <;> rfl
  have isWord {s : String} (other : (text s).shape ≠ .numeral) : (text s).shape = .word :=
    (shape_text s).resolve_left other
  cases v with
  | null => rfl
  | number m =>
    -- A number meets a word as a number, but the word is read as none, or as NaN.
    cases w with
    | null => rfl
    | number _ | bool _ => cases scale
    | text t =>
      have word := isWord (s := t) fun numeral => by
        rw [numeral] at scale
        cases scale
      change ((text t).asFloat?.bind fun y => m.toFloat.compare? y).getD .eq = .eq
      rcases asFloat?_word word with read | read <;> rw [read]
      · rfl
      · cases m.toFloat <;> rfl
    | list _ | object _ => rfl
  | bool a =>
    cases w with
    | null => rfl
    | number _ | bool _ => cases scale
    | text _ | list _ | object _ => exact data rfl
  | text s =>
    cases w with
    | null => rfl
    | number n =>
      have word := isWord (s := s) fun numeral => by
        rw [numeral] at scale
        cases scale
      change ((text s).asFloat?.bind fun x => x.compare? n.toFloat).getD .eq = .eq
      rcases asFloat?_word word with read | read <;> rw [read] <;> rfl
    | text t =>
      rw [scale?_texts] at scale
      cases scale
    | bool _ | list _ | object _ => exact data rfl
  | list _ | object _ =>
    cases w with
    | null => rfl
    | number _ => rfl
    | text _ | bool _ | list _ | object _ => exact data rfl

variable {a b c : Value}

/-- Only values that are read as numbers are on the numeric scale. -/
theorem exists_reads_of_scale (ha : a.isFinite = true) (hb : b.isFinite = true)
    (scale : a.shape.scale? b.shape = some .numeric) :
    (∃ x, a.Reads x) ∧ ∃ y, b.Reads y := by
  obtain ⟨first, second⟩ := Shape.isRead_of_scale? scale
  exact ⟨exists_reads ha first, exists_reads hb second⟩

/-- Values that are compared on one scale are put in order consistently. -/
theorem compare?_trans (ha : a.isFinite = true) (hb : b.isFinite = true) (hc : c.isFinite = true)
    {scale : Scale} (first : a.shape.scale? b.shape = some scale)
    (second : b.shape.scale? c.shape = some scale) (outer : a.shape.scale? c.shape = some scale)
    (le : (a.compare? b).getD .eq ≠ .gt) (le' : (b.compare? c).getD .eq ≠ .gt) :
    (a.compare? c).getD .eq ≠ .gt := by
  cases scale with
  | textual =>
    obtain ⟨s, t, rfl, rfl⟩ := exists_text first
    obtain ⟨_, u, same, rfl⟩ := exists_text second
    cases same
    change compare s t ≠ .gt at le
    change compare t u ≠ .gt at le'
    change compare s u ≠ .gt
    rw [compare_le_iff_le] at le le' ⊢
    exact le.trans le'
  | numeric =>
    obtain ⟨⟨x, hx⟩, y, hy⟩ := exists_reads_of_scale ha hb first
    obtain ⟨-, z, hz⟩ := exists_reads_of_scale hb hc second
    rw [compare?_numeric hx hy first, Option.getD_some, compare_le_iff_le] at le
    rw [compare?_numeric hy hz second, Option.getD_some, compare_le_iff_le] at le'
    rw [compare?_numeric hx hz outer, Option.getD_some, compare_le_iff_le]
    exact le.trans le'

/-- Values of consistent shapes are put in order consistently. -/
theorem order_trans (ha : a.isFinite = true) (hb : b.isFinite = true) (hc : c.isFinite = true)
    (consistent : a.shape.Consistent b.shape c.shape) (le : a.order b ≠ .gt)
    (le' : b.order c ≠ .gt) : a.order c ≠ .gt := by
  by_cases nullA : a.shape = .null
  · rw [shape_eq_null.1 nullA] at le ⊢
    rwa [null_order_ne_gt.1 le] at le'
  by_cases nullB : b.shape = .null
  · rw [shape_eq_null.1 nullB] at le'
    rw [null_order_ne_gt.1 le']
    exact order_null_ne_gt a
  by_cases nullC : c.shape = .null
  · rw [shape_eq_null.1 nullC]
    exact order_null_ne_gt a
  rw [order_of_present nullA nullB] at le
  rw [order_of_present nullB nullC] at le'
  rw [order_of_present nullA nullC]
  cases outer : a.shape.scale? c.shape with
  | none =>
    rw [compare?_unscaled outer]
    nofun
  | some scale =>
    have one : a.shape.scale? b.shape = a.shape.scale? c.shape ∧
        b.shape.scale? c.shape = a.shape.scale? c.shape := by
      rcases consistent with null | null | null | none | one
      · exact absurd null nullA
      · exact absurd null nullB
      · exact absurd null nullC
      · rw [none] at outer
        cases outer
      · exact one
    exact compare?_trans ha hb hc (one.1.trans outer) (one.2.trans outer) outer le le'

/-! ### Shapes that break the order -/

/-- Some values of a shape. -/
def samples : Shape → List Value
  | .null => [.null]
  | .boolean => [.bool false, .bool true]
  | .number => [.number (.float (.ofRatio false 1 2)), .number (.float (.ofRatio false 19 2))]
  | .numeral => [.text "0.2", .text "9", .text "10"]
  | .word => [.text "", .text "a"]
  | .composite => [.list []]

theorem shape_of_mem_samples : ∀ f, ∀ v ∈ samples f, v.shape = f ∧ v.isFinite = true := by
  decide +kernel

/-- Shapes that are not consistent have values among which the order goes round in a circle. -/
theorem exists_circle : ∀ f g h, ¬ Shape.Consistent f g h →
    ∃ a ∈ samples f, ∃ b ∈ samples g, ∃ c ∈ samples h,
      a.order b ≠ .gt ∧ b.order c ≠ .gt ∧ a.order c = .gt := by
  decide +kernel

/-- Which shapes are consistent does not depend on the direction. -/
theorem Shape.Consistent.symm : ∀ {f g h : Shape}, f.Consistent g h → h.Consistent g f := by
  decide +kernel

/-- Nulls aside, every three shapes of a column are consistent when it holds numbers and booleans
only, texts only, or lists and objects only. -/
theorem Shape.consistent_column : ∀ column : Finset Shape,
    (∀ f ∈ column, ∀ g ∈ column, ∀ h ∈ column, f.Consistent g h) ↔
      column ⊆ {.null, .boolean, .number} ∨ column ⊆ {.null, .numeral, .word} ∨
        column ⊆ {.null, .composite} := by
  decide +kernel

/-- The order is that of a total preorder on the values of three shapes exactly when the shapes are
consistent. -/
theorem ordersTotally_iff (f g h : Shape) :
    (∀ a b c : Value, a.isFinite = true → b.isFinite = true → c.isFinite = true →
        a.shape = f → b.shape = g → c.shape = h → OrdersTotally a b c) ↔ f.Consistent g h := by
  constructor
  · intro total
    by_contra broken
    obtain ⟨a, ha, b, hb, c, hc, le, le', gt⟩ := exists_circle f g h broken
    obtain ⟨shapeA, finiteA⟩ := shape_of_mem_samples f a ha
    obtain ⟨shapeB, finiteB⟩ := shape_of_mem_samples g b hb
    obtain ⟨shapeC, finiteC⟩ := shape_of_mem_samples h c hc
    exact (total a b c finiteA finiteB finiteC shapeA shapeB shapeC).transitive le le' gt
  · rintro consistent a b c finiteA finiteB finiteC rfl rfl rfl
    refine ⟨a.order_self, a.order_swap b,
      order_trans finiteA finiteB finiteC consistent, fun same same' => ?_⟩
    -- Values that tie are below each other, and the way back is consistent as well.
    have le : a.order c ≠ .gt := order_trans finiteA finiteB finiteC consistent
      (by rw [same]; nofun) (by rw [same']; nofun)
    have ge : c.order a ≠ .gt := order_trans finiteC finiteB finiteA consistent.symm
      (by rw [b.order_swap c, same']; nofun) (by rw [a.order_swap b, same]; nofun)
    rw [a.order_swap c] at ge
    cases outer : a.order c with
    | eq => rfl
    | lt =>
      rw [outer] at ge
      exact absurd rfl ge
    | gt => exact absurd outer le

theorem ordersTotally_counted : Shape.Consistent .number .boolean .number ∧
    OrdersTotally (.int 2) (.bool true) (.int 0) :=
  ⟨by decide, (ordersTotally_iff .number .boolean .number).2 (by decide) _ _ _
    rfl rfl rfl rfl rfl rfl⟩

/-- Ten is above nine and a half, nine below it, and as a text `10` is below `9`. -/
theorem not_ordersTotally_numerals :
    ¬ OrdersTotally (.text "10") (.text "9") (.number (.float (.ofRatio false 19 2))) := by
  intro total
  have le : (text "10").order (.text "9") ≠ .gt := by decide +kernel
  have le' : (text "9").order (.number (.float (.ofRatio false 19 2))) ≠ .gt := by decide +kernel
  exact total.transitive le le' (by decide +kernel)

end Value

end EntityStore
