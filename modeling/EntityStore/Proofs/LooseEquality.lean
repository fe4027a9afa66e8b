import EntityStore.Proofs.KeyValues

/-!
# Loose equality

A value without NaN equals itself (`Value.same_self`), and loosely so if it is not null
(`Value.looseEq_self`). Values of different kinds meet as numbers, as texts or as data. Whatever they
meet as, exchanging them turns their order around (`Value.compare?_swap`), so loose equality is
symmetric (`Value.looseEq_comm`).

A query finds a row by comparing its key loosely with those that are asked for; the answers are then
handed to their owners by the texts of their keys. Equal numbers may be written differently: a whole
number of binary64 ends in `.0` (`Binary64.isFraction_dataText`), booleans count as numbers but are
written as words, and texts that read as a number need not be the text that it is written as. Main
result: exactly when equal keys have one text, so that a row that was found for an owner is handed to
it (`Value.keysFollow_iff`).
-/

namespace EntityStore

theorem Binary64.compare?_swap (x y : Binary64) :
    y.compare? x = (x.compare? y).map Ordering.swap := by
  cases x with
  | nan => cases y <;> rfl
  | infinite a =>
    cases y with
    | infinite b => exact congrArg some Std.OrientedCmp.eq_swap
    | nan => rfl
    | finite n | negativeZero => cases a <;> rfl
  | finite m | negativeZero =>
    cases y with
    | infinite b => cases b <;> rfl
    | nan => rfl
    | finite n | negativeZero => exact congrArg some Std.OrientedCmp.eq_swap

theorem Binary64.same_comm (x y : Binary64) : x.same y = y.same x := by
  unfold same
  rw [compare?_swap x y]
  cases x.compare? y with
  | none => rfl
  | some o => cases o <;> rfl

theorem Number.same_comm (m n : Number) : m.same n = n.same m := by
  cases m with
  | int m =>
    cases n with
    | int n => exact BEq.comm
    | float y => rfl
  | float x =>
    cases n with
    | int n => rfl
    | float y => exact x.same_comm y

namespace Value

/-! ### Equality with itself -/

mutual

/-- Every binary64 number in the value is finite, as in all data that is read or stored. -/
def isFinite : Value → Bool
  | .number (.float x) => x.isFinite
  | .list items => allFinite items
  | .object fields => fieldsFinite fields
  | .null | .bool _ | .number (.int _) | .text _ => true

def allFinite : List Value → Bool
  | [] => true
  | v :: rest => v.isFinite && allFinite rest

def fieldsFinite : List (String × Value) → Bool
  | [] => true
  | (_, v) :: rest => v.isFinite && fieldsFinite rest

end

mutual

/-- A value without NaN is equal to itself. -/
theorem same_self : ∀ {v : Value}, v.isFinite = true → v.same v = true
  | .null, _ => rfl
  | .bool _, _ | .text _, _ | .number (.int _), _ => beq_self_eq_true _
  | .number (.float x), finite => by
    cases x with
    | finite n => exact beq_iff_eq.2 (congrArg some Std.ReflCmp.compare_self)
    | negativeZero => rfl
    | infinite _ | nan => cases finite
  | .list _, finite => sameList_self finite
  | .object _, finite => sameFields_self finite

theorem sameList_self : ∀ {vs : List Value}, allFinite vs = true → sameList vs vs = true
  | [], _ => rfl
  | v :: vs, finite => by
    have each := (Bool.and_eq_true_iff).1 finite
    rw [sameList, same_self each.1, sameList_self each.2]
    rfl

theorem sameFields_self : ∀ {fs : List (String × Value)}, fieldsFinite fs = true →
    sameFields fs fs = true
  | [], _ => rfl
  | (k, v) :: fs, finite => by
    have each := (Bool.and_eq_true_iff).1 finite
    rw [sameFields, same_self each.1, sameFields_self each.2, beq_self_eq_true]
    rfl

end

/-- A value without NaN equals itself loosely as well, if it is not null. -/
theorem looseEq_self {v : Value} (finite : v.isFinite = true) (present : v.isNull = false) :
    v.looseEq v = true := by
  cases v with
  | null => cases present
  | text s => rw [looseEq_text, decide_eq_true rfl]
  | bool b => cases b <;> rfl
  | number n =>
    cases n with
    | int n => exact looseEq_int_self n
    | float x =>
      unfold looseEq
      rw [compare?_number]
      exact same_self finite
  | list items =>
    change ((if (Value.list items).same (.list items) then some Ordering.eq else none) == some .eq) =
      true
    rw [same_self finite]
    rfl
  | object fields =>
    change ((if (Value.object fields).same (.object fields) then some Ordering.eq else none) ==
      some .eq) = true
    rw [same_self finite]
    rfl

/-! ### Exchanging two values -/

mutual

theorem same_comm : ∀ v w : Value, v.same w = w.same v
  | .number m, .number n => Number.same_comm m n
  | .text a, .text b => BEq.comm
  | .bool a, .bool b => BEq.comm
  | .list vs, .list ws => sameList_comm vs ws
  | .object fs, .object gs => sameFields_comm fs gs
  | .null, w => by cases w <;> rfl
  | .number _, .null | .number _, .text _ | .number _, .bool _ | .number _, .list _
  | .number _, .object _ => rfl
  | .text _, .null | .text _, .number _ | .text _, .bool _ | .text _, .list _
  | .text _, .object _ => rfl
  | .bool _, .null | .bool _, .number _ | .bool _, .text _ | .bool _, .list _
  | .bool _, .object _ => rfl
  | .list _, .null | .list _, .number _ | .list _, .text _ | .list _, .bool _
  | .list _, .object _ => rfl
  | .object _, .null | .object _, .number _ | .object _, .text _ | .object _, .bool _
  | .object _, .list _ => rfl

theorem sameList_comm : ∀ vs ws : List Value, sameList vs ws = sameList ws vs
  | [], [] | [], _ :: _ | _ :: _, [] => rfl
  | v :: vs, w :: ws => by
    rw [sameList, sameList, same_comm v w, sameList_comm vs ws]

theorem sameFields_comm : ∀ fs gs : List (String × Value), sameFields fs gs = sameFields gs fs
  | [], [] | [], _ :: _ | _ :: _, [] => rfl
  | (k, v) :: fs, (l, w) :: gs => by
    rw [sameFields, sameFields, same_comm v w, sameFields_comm fs gs, BEq.comm (a := k)]

end

/-- Exchanging two values turns their order around. -/
theorem compare?_swap (v w : Value) : w.compare? v = (v.compare? w).map Ordering.swap := by
  have numbers {v w : Value}
      (meets : v.compare? w = v.asFloat?.bind fun x => w.asFloat?.bind fun y => x.compare? y)
      (met : w.compare? v = w.asFloat?.bind fun y => v.asFloat?.bind fun x => y.compare? x) :
      w.compare? v = (v.compare? w).map Ordering.swap := by
    rw [meets, met]
    cases v.asFloat? with
    | none => cases w.asFloat? <;> rfl
    | some x =>
      cases w.asFloat? with
      | none => rfl
      | some y => exact Binary64.compare?_swap x y
  have data {v w : Value} (meets : v.compare? w = if v.same w then some .eq else none)
      (met : w.compare? v = if w.same v then some .eq else none) :
      w.compare? v = (v.compare? w).map Ordering.swap := by
    rw [meets, met, same_comm w v]
    split <;> rfl
  cases v with
  | null => cases w <;> rfl
  | number m =>
    cases w with
    | null => rfl
    | number _ | text _ | bool _ | list _ | object _ => exact numbers rfl rfl
  | text a =>
    cases w with
    | null => rfl
    | text b => exact congrArg some Std.OrientedCmp.eq_swap
    | number _ => exact numbers rfl rfl
    | bool _ | list _ | object _ => exact data rfl rfl
  | bool a =>
    cases w with
    | null => rfl
    | bool b => exact congrArg some Std.OrientedCmp.eq_swap
    | number _ => exact numbers rfl rfl
    | text _ | list _ | object _ => exact data rfl rfl
  | list _ | object _ =>
    cases w with
    | null => rfl
    | number _ => exact numbers rfl rfl
    | text _ | bool _ | list _ | object _ => exact data rfl rfl

theorem looseEq_comm (v w : Value) : v.looseEq w = w.looseEq v := by
  unfold looseEq
  rw [compare?_swap w v]
  cases w.compare? v with
  | none => rfl
  | some o => cases o <;> rfl

end Value

/-! ### How numbers are written -/

/-- Numbers are written with the character. -/
def isNumberChar (c : Char) : Bool :=
  c.isDigit || ['-', '+', '.', 'e'].contains c

theorem isDigit_of_mem_digitChars {n : Nat} {c : Char} (mem : c ∈ digitChars n) :
    c.isDigit = true :=
  Nat.isDigit_of_mem_toDigits (by decide) (by decide) mem

theorem isDigit_of_mem_toString {n : Nat} {c : Char} (mem : c ∈ (toString n).toList) :
    c.isDigit = true := by
  rw [Nat.toString_eq_repr, Nat.toList_repr] at mem
  exact isDigit_of_mem_digitChars mem

/-- Integers are written with digits, and a minus sign in front of them. -/
theorem mem_toString_int {n : Int} {c : Char} (mem : c ∈ (toString n).toList) :
    c.isDigit = true ∨ c = '-' := by
  cases n with
  | ofNat m => exact .inl (isDigit_of_mem_toString mem)
  | negSucc m =>
    have written : toString (Int.negSucc m) = "-" ++ toString (m + 1) := rfl
    rw [written, String.toList_append] at mem
    rcases List.mem_append.1 mem with sign | mem
    · right
      simpa using sign
    · exact .inl (isDigit_of_mem_toString mem)

/-- The text is made of the characters of numbers. -/
def IsNumeric (text : String) : Prop :=
  ∀ c ∈ text.toList, isNumberChar c = true

theorem IsNumeric.append {s t : String} (hs : IsNumeric s) (ht : IsNumeric t) :
    IsNumeric (s ++ t) := by
  unfold IsNumeric
  rw [String.toList_append, List.forall_mem_append]
  exact ⟨hs, ht⟩

theorem isNumeric_ofList {cs : List Char} (chars : ∀ c ∈ cs, isNumberChar c = true) :
    IsNumeric (String.ofList cs) := by
  rwa [IsNumeric, String.toList_ofList]

theorem isNumberChar_of_isDigit {c : Char} (digit : c.isDigit = true) : isNumberChar c = true := by
  rw [isNumberChar, digit, Bool.true_or]

theorem isNumeric_digits {n : Nat} {cs : List Char} (part : cs ⊆ digitChars n) :
    IsNumeric (String.ofList cs) :=
  isNumeric_ofList fun _ mem => isNumberChar_of_isDigit (isDigit_of_mem_digitChars (part mem))

/-- The signs and marks that numbers are written with, and zero. -/
theorem isNumeric_marks : IsNumeric "" ∧ IsNumeric "-" ∧ IsNumeric "+" ∧ IsNumeric "." ∧
    IsNumeric "e" ∧ IsNumeric ".0" ∧ IsNumeric "0.0" ∧ IsNumeric "-0.0" := by
  simp [IsNumeric, isNumberChar]

/-- A text of a number that no integer is written as: it has a point or an exponent. -/
structure IsFraction (text : String) : Prop where
  marked : '.' ∈ text.toList ∨ 'e' ∈ text.toList
  numeric : IsNumeric text

theorem IsFraction.ne_toString {text : String} (fraction : IsFraction text) (n : Int) :
    text ≠ toString n := by
  rintro rfl
  rcases fraction.marked with mark | mark <;> rcases mem_toString_int mark with digit | sign
  · exact absurd digit (by decide)
  · exact absurd sign (by decide)
  · exact absurd digit (by decide)
  · exact absurd sign (by decide)

theorem IsFraction.signed {text sign : String} (fraction : IsFraction text)
    (hsign : IsNumeric sign) : IsFraction (sign ++ text) where
  marked := by
    rw [String.toList_append, List.mem_append, List.mem_append]
    exact fraction.marked.imp .inr .inr
  numeric := hsign.append fraction.numeric

namespace Binary64

/-- In positional notation whole numbers end in `.0`, all others have a point among their digits. -/
theorem isFraction_positional (d : Decimal) : IsFraction (positional d ".0") := by
  obtain ⟨-, -, -, point, -, whole, -⟩ := isNumeric_marks
  have padded (n : Nat) {m : Nat} : ∀ c ∈ List.replicate n '0' ++ digitChars m,
      isNumberChar c = true := by
    refine List.forall_mem_append.2 ⟨fun c mem => ?_, fun c mem => ?_⟩
    · rw [List.eq_of_mem_replicate mem]
      decide
    · exact isNumberChar_of_isDigit (isDigit_of_mem_digitChars mem)
  unfold positional
  split
  · refine ⟨by simp, .append (isNumeric_ofList fun c mem => ?_) whole⟩
    exact padded _ c (List.mem_append.2 (List.mem_append.1 mem).symm)
  · refine ⟨by simp, .append (.append ?_ point) ?_⟩
    · exact isNumeric_ofList fun c mem => padded _ c (List.mem_of_mem_take mem)
    · exact isNumeric_ofList fun c mem => padded _ c (List.mem_of_mem_drop mem)

/-- In scientific notation there is an exponent. -/
theorem isFraction_scientific (d : Decimal) : IsFraction (scientific d) := by
  obtain ⟨empty, minus, plus, point, mark, -⟩ := isNumeric_marks
  unfold scientific
  refine ⟨.inr (by simp), .append (.append (.append (.append ?_ ?_) mark) ?_) ?_⟩
  · exact isNumeric_digits (List.take_subset _ _)
  · split
    · exact empty
    · exact point.append (isNumeric_digits (List.drop_subset _ _))
  · split
    · exact minus
    · exact plus
  · exact fun c mem => isNumberChar_of_isDigit (isDigit_of_mem_toString mem)

theorem isFraction_magnitudeText (n : Nat) : IsFraction (magnitudeText n) := by
  unfold magnitudeText
  split
  · exact ⟨.inl (by simp), isNumeric_marks.2.2.2.2.2.2.1⟩
  · dsimp only
    split
    · exact isFraction_positional _
    · exact isFraction_scientific _

/-- No integer is written as a finite number of binary64. -/
theorem isFraction_dataText {x : Binary64} (finite : x.isFinite = true) :
    IsFraction x.dataText := by
  obtain ⟨empty, minus, -, -, -, -, -, negative⟩ := isNumeric_marks
  cases x with
  | finite n =>
    refine (isFraction_magnitudeText _).signed ?_
    split
    · exact minus
    · exact empty
  | negativeZero => exact ⟨.inl (by simp [dataText]), negative⟩
  | infinite _ | nan => cases finite

/-- Numbers that are equal and written alike are the same: the zeros are told apart by a sign. -/
theorem eq_of_same {x y : Binary64} (hx : x.isFinite = true) (hy : y.isFinite = true)
    (same : x.compare? y = some .eq) (text : x.dataText = y.dataText) : x = y := by
  have zeros : (Binary64.finite 0).dataText ≠ negativeZero.dataText := by decide +kernel
  cases x with
  | finite m =>
    cases y with
    | finite n => exact congrArg _ (compare_eq_iff_eq.1 (Option.some.inj same))
    | negativeZero =>
      have zero : m = 0 := compare_eq_iff_eq.1 (Option.some.inj same)
      subst zero
      exact absurd text zeros
    | infinite _ | nan => cases hy
  | negativeZero =>
    cases y with
    | finite n =>
      have zero : 0 = n := compare_eq_iff_eq.1 (Option.some.inj same)
      subst zero
      exact absurd text.symm zeros
    | negativeZero => rfl
    | infinite _ | nan => cases hy
  | infinite _ | nan => cases hx

end Binary64

namespace Number

theorem isNumeric_dataText {n : Number} (finite : (Value.number n).isFinite = true) :
    IsNumeric n.dataText := by
  cases n with
  | float x => exact (Binary64.isFraction_dataText finite).numeric
  | int n =>
    intro c mem
    rcases mem_toString_int mem with digit | rfl
    · exact isNumberChar_of_isDigit digit
    · decide

/-- Numbers that are equal and written alike are the same. -/
theorem eq_of_dataText {m n : Number} (hm : (Value.number m).isFinite = true)
    (hn : (Value.number n).isFinite = true)
    (equal : (Value.number m).looseEq (.number n) = true) (text : m.dataText = n.dataText) :
    m = n := by
  cases m with
  | int m =>
    cases n with
    | int n =>
      change toString m = toString n at text
      rw [Int.toString_eq_repr, Int.toString_eq_repr, Int.repr_inj] at text
      rw [text]
    | float y => exact absurd text.symm ((Binary64.isFraction_dataText hn).ne_toString m)
  | float x =>
    cases n with
    | int n => exact absurd text ((Binary64.isFraction_dataText hm).ne_toString n)
    | float y => exact congrArg _ (Binary64.eq_of_same hm hn (beq_iff_eq.1 equal) text)

end Number

/-! ### Equal keys -/

namespace Value

/-- A value that a key column can hold: a text, a boolean or a finite number. -/
inductive IsScalar : Value → Prop where
  | text (s : String) : IsScalar (.text s)
  | bool (b : Bool) : IsScalar (.bool b)
  | number {n : Number} (finite : (Value.number n).isFinite = true) : IsScalar (.number n)

/-- The values are the same, or one is a number and the other the text that it is written as. -/
inductive SpelledAlike : Value → Value → Prop where
  | same (v : Value) : SpelledAlike v v
  | written (n : Number) : SpelledAlike (.number n) (.text n.dataText)
  | read (n : Number) : SpelledAlike (.text n.dataText) (.number n)

/-- Where the values are equal they are one key, and a row with the second that a condition finds by
the first is among the rows of every owner with the first. -/
structure KeysFollow (a b : Value) : Prop where
  alike : a.looseEq b = true → a.keyText? = b.keyText?
  attributed : b.looseEq a = true → ∀ (relation : Relation) (owner row : Instance)
    (rows : List Instance), owner.get? relation.localKey = some a →
      row.get? relation.foreignKey = some b → row ∈ rows → row ∈ relation.rowsOfOwner rows owner

theorem keyText?_of_spelledAlike {a b : Value} (alike : SpelledAlike a b) :
    a.keyText? = b.keyText? := by
  cases alike <;> rfl

/-- No number is written as a boolean is. -/
theorem keyText?_number_ne_bool {n : Number} (finite : (Value.number n).isFinite = true)
    (b : Bool) : (Value.number n).keyText? ≠ (Value.bool b).keyText? := by
  intro same
  have numeric : IsNumeric (Value.bool b).render :=
    Option.some.inj same ▸ Number.isNumeric_dataText finite
  cases b <;> simp [render, IsNumeric, isNumberChar] at numeric

variable {a b : Value}

/-- Among equal keys, those of one text are spelled alike. -/
theorem spelledAlike_of_keyText? (ha : a.IsScalar) (hb : b.IsScalar)
    (equal : a.looseEq b = true) (text : a.keyText? = b.keyText?) : SpelledAlike a b := by
  cases ha with
  | text s =>
    cases hb with
    | text t =>
      obtain rfl : s = t := Option.some.inj text
      exact .same _
    -- Texts and booleans have the texts `true` and `false` in common, but never meet.
    | bool b => cases equal
    | @number n _ =>
      obtain rfl : s = n.dataText := Option.some.inj text
      exact .read n
  | bool x =>
    cases hb with
    | text t => cases equal
    | bool y =>
      obtain rfl : x = y := by
        cases x <;> cases y <;> first | rfl | cases equal
      exact .same _
    | number finite => exact absurd text.symm (keyText?_number_ne_bool finite x)
  | @number m finite =>
    cases hb with
    | text t =>
      obtain rfl : m.dataText = t := Option.some.inj text
      exact .written m
    | bool y => exact absurd text (keyText?_number_ne_bool finite y)
    | number finite' =>
      rw [Number.eq_of_dataText finite finite' equal (Option.some.inj text)]
      exact .same _

/-- A row is handed to an owner whose key has the text of the row's key. -/
theorem mem_rowsOfOwner {relation : Relation} {owner row : Instance} {rows : List Instance}
    (present : a ≠ .null) (alike : a.keyText? = b.keyText?)
    (ofOwner : owner.get? relation.localKey = some a)
    (ofRow : row.get? relation.foreignKey = some b) (mem : row ∈ rows) :
    row ∈ relation.rowsOfOwner rows owner := by
  obtain ⟨text, labelled⟩ := exists_keyText? present
  have ofOwner : owner.keyText? relation.localKey = some text := by
    rw [Instance.keyText?, ofOwner]
    exact labelled
  have ofRow : row.keyText? relation.foreignKey = some text := by
    rw [Instance.keyText?, ofRow]
    exact alike.symm.trans labelled
  rw [Relation.rowsOfOwner, ofOwner]
  exact List.mem_filter.2 ⟨mem, decide_eq_true ofRow⟩

/-- Equal keys have one text, so that the rows found by the one are handed to the owners of the
other, exactly when they are spelled alike. -/
theorem keysFollow_iff (ha : a.IsScalar) (hb : b.IsScalar) :
    KeysFollow a b ↔ (a.looseEq b = true → SpelledAlike a b) := by
  constructor
  · intro follow equal
    exact spelledAlike_of_keyText? ha hb equal (follow.alike equal)
  · intro spelled
    have alike (equal : a.looseEq b = true) := keyText?_of_spelledAlike (spelled equal)
    have present : a ≠ .null := by
      rintro rfl
      cases ha
    refine ⟨alike, fun found relation owner row rows ofOwner ofRow mem => ?_⟩
    rw [looseEq_comm] at found
    exact mem_rowsOfOwner present (alike found) ofOwner ofRow mem

/-- An integer finds the rows that carry it as a text, and is handed them. -/
theorem keysFollow_seven : IsScalar (.int 7) ∧ IsScalar (.text "7") ∧
    (Value.int 7).looseEq (.text "7") = true ∧ KeysFollow (.int 7) (.text "7") := by
  have number : IsScalar (.int 7) := .number rfl
  refine ⟨number, .text _, by decide +kernel, (keysFollow_iff number (.text _)).2 fun _ => ?_⟩
  exact .written (.int 7)

/-- One equals 1.0, which is written with a point. -/
theorem not_keysFollow_one : ¬ KeysFollow (.int 1) (.number (.float (.finite Binary64.one))) := by
  intro follow
  have alike := follow.alike (by decide +kernel)
  revert alike
  decide +kernel

end Value

end EntityStore
