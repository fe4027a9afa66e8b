import EntityStore.Proofs.Conditions
import EntityStore.Proofs.Quoting

/-!
# Reading subqueries

A correlated subquery names the table of the query around it, and in SQL a name means the innermost
query that selects from a table of that name. `Sql.subselects` reads the subqueries of a text, each
with the table of the query around it and with the table that its correlation names
(`Subselect.RefersOut`); `treeSubselects` are those of a condition tree. A text is read part by part
(`Sql.Holds`).
-/

namespace EntityStore

namespace Sql

/-- A subquery of rendered SQL: the table of the query around it, its own table, and the table of
the outer column that it names, as they are written. -/
structure Subselect where
  around : List Char
  table : List Char
  outer : List Char
deriving DecidableEq

/-- What stands before the last point of a name. -/
def qualifier (cs : List Char) : List Char :=
  ((cs.reverse.dropWhile (· != '.')).drop 1).reverse

/-- What a subquery selects its rows with. -/
def selectMark : List Char := "SELECT 1 FROM ".toList

/-- What stands before the parenthesis of a subquery, from its end. -/
def existsMark : List Char := "EXISTS ".toList.reverse

/-- Reads a subquery in a query on `around` from the text after its parenthesis: the word after
FROM, and the qualifier of the name after the first equals sign. -/
def Subselect.read (around cs : List Char) : Subselect :=
  let clause := cs.drop selectMark.length
  let reference := ((clause.dropWhile (· != '=')).drop 2).takeWhile fun c => c != ' ' && c != ')'
  ⟨around, clause.takeWhile (· != ' '), qualifier reference⟩

/-- The subqueries in the rest of a text. `back` is what was read of it, from its end, `around` the
table of the query that the rest begins in, and `outside` those in which the open parentheses
stand. -/
def subselects (around : List Char) (outside : List (List Char)) (back : List Char) :
    List Char → List Subselect
  | [] => []
  | c :: rest =>
    if c = '(' then
      if existsMark.isPrefixOf back then
        let found := Subselect.read around rest
        found :: subselects found.table (around :: outside) (c :: back) rest
      else subselects around (around :: outside) (c :: back) rest
    else if c = ')' then subselects (outside.headD around) outside.tail (c :: back) rest
    else subselects around outside (c :: back) rest

/-- A name as SQL compares it: in small letters outside of quotes. -/
def folded (quoted : Bool) : List Char → List Char
  | [] => []
  | c :: rest =>
    if c = '"' then c :: folded (!quoted) rest
    else (if quoted then c else c.toLower) :: folded quoted rest

/-- A query on `table` is meant by a qualifier that says the name of the table, with or without the
schema in front of it. -/
def Names (reference table : List Char) : Prop :=
  folded false ('.' :: reference) <:+ folded false ('.' :: table)

instance (reference table : List Char) : Decidable (Names reference table) :=
  inferInstanceAs (Decidable (_ <:+ _))

theorem Names.refl (table : List Char) : Names table table := List.suffix_refl _

/-- The correlation means the query around, and the subquery does not hide it. -/
def Subselect.RefersOut (s : Subselect) : Prop :=
  Names s.outer s.around ∧ ¬ Names s.outer s.table

instance (s : Subselect) : Decidable s.RefersOut :=
  inferInstanceAs (Decidable (_ ∧ _))

/-- A name as it is written, nothing when it is refused. -/
def written (name : String) : List Char :=
  ((quoteIdentifier name).toOption.getD "").toList

end Sql

open Sql (Subselect written)

mutual

/-- The subqueries of a condition in a query on `around`. -/
def Condition.subselects (around : List Char) : Condition → List Subselect
  | .compare .. | .columns .. | .isIn .. | .notIn .. | .isNull _ | .notNull _ | .between .. => []
  | .group tree => treeSubselects around tree
  | .related _ table correlation tree =>
    ⟨around, written table, written correlation.outerTable⟩ ::
      treeSubselects (written table) tree

/-- The subqueries of a tree in a query on `around`. -/
def treeSubselects (around : List Char) : ConditionTree → List Subselect
  | [] => []
  | (_, c) :: rest => c.subselects around ++ treeSubselects around rest

end

mutual

/-- The tables and the outer columns of the subqueries of a condition are written as single words,
the columns without a qualifier of their own. -/
def Condition.Worded : Condition → Prop
  | .compare .. | .columns .. | .isIn .. | .notIn .. | .isNull _ | .notNull _ | .between .. => True
  | .group tree => TreeWorded tree
  | .related _ table correlation tree =>
    (∀ name ∈ [table, correlation.outerTable, correlation.outerColumn], ' ' ∉ written name) ∧
      '.' ∉ written correlation.outerColumn ∧ TreeWorded tree

def TreeWorded : ConditionTree → Prop
  | [] => True
  | (_, c) :: rest => c.Worded ∧ TreeWorded rest

end

mutual

/-- A condition that asks no other table has no subqueries. -/
theorem Condition.subselects_of_tables {c : Condition} (none : c.tables = []) (around : List Char) :
    c.subselects around = [] ∧ c.Worded := by
  cases c with
  | compare | columns | isIn | notIn | isNull | notNull | between =>
    simp [Condition.subselects, Condition.Worded]
  | group tree =>
    rw [Condition.tables] at none
    rw [Condition.subselects, Condition.Worded]
    exact treeSubselects_of_tables none around
  | related => exact nomatch none

theorem treeSubselects_of_tables {tree : ConditionTree} (none : treeTables tree = [])
    (around : List Char) : treeSubselects around tree = [] ∧ TreeWorded tree := by
  cases tree with
  | nil => simp [treeSubselects, TreeWorded]
  | cons node rest =>
    obtain ⟨conjunction, c⟩ := node
    rw [treeTables, List.append_eq_nil_iff] at none
    obtain ⟨first, wordedFirst⟩ := Condition.subselects_of_tables none.1 around
    obtain ⟨more, wordedMore⟩ := treeSubselects_of_tables none.2 around
    rw [treeSubselects, TreeWorded, first, more]
    exact ⟨rfl, wordedFirst, wordedMore⟩

end

theorem treeSubselects_also (around : List Char) (tree : ConditionTree) (c : Condition) :
    treeSubselects around (tree.also c) = treeSubselects around tree ++ c.subselects around := by
  unfold ConditionTree.also
  induction tree with
  | nil => simp [treeSubselects]
  | cons node rest ih =>
    obtain ⟨conjunction, first⟩ := node
    rw [List.cons_append, treeSubselects, treeSubselects, ih, List.append_assoc]

theorem treeSubselects_enclosed (around : List Char) (tree : ConditionTree) :
    treeSubselects around tree.enclosed = treeSubselects around tree := by
  unfold ConditionTree.enclosed
  split
  · rw [treeSubselects, Condition.subselects, treeSubselects, List.append_nil]
  · rfl

theorem treeWorded_also {tree : ConditionTree} {c : Condition} (worded : TreeWorded tree)
    (last : c.Worded) : TreeWorded (tree.also c) := by
  unfold ConditionTree.also
  induction tree with
  | nil => exact ⟨last, trivial⟩
  | cons node rest ih =>
    obtain ⟨conjunction, first⟩ := node
    rw [TreeWorded] at worded
    rw [List.cons_append, TreeWorded]
    exact ⟨worded.1, ih worded.2⟩

theorem treeWorded_enclosed {tree : ConditionTree} (worded : TreeWorded tree) :
    TreeWorded tree.enclosed := by
  unfold ConditionTree.enclosed
  split
  · rw [TreeWorded, Condition.Worded]
    exact ⟨worded, trivial⟩
  · exact worded

namespace Sql

/-! ### Names -/

theorem written_of_ok {name text : String} (quoted : quoteIdentifier name = .ok text) :
    written name = text.toList := by
  unfold written
  rw [quoted]
  rfl

/-- Names hold neither parentheses nor equals signs. -/
theorem name_chars {name text : String} (quoted : quoteIdentifier name = .ok text) :
    ∀ c ∈ text.toList, c ≠ '(' ∧ c ≠ ')' ∧ c ≠ '=' := by
  have named := quoteIdentifier_name name
  rw [quoted] at named
  intro c hc
  have nameChar := named.chars c hc
  refine ⟨?_, ?_, ?_⟩ <;> rintro rfl <;> exact absurd nameChar (by decide)

theorem quoteIdentifier_eq (name : String) :
    Yields (fun text => quoteIdentifier name = .ok text) (quoteIdentifier name) := by
  have named := quoteIdentifier_name name
  cases quoted : quoteIdentifier name with
  | error e =>
    rw [quoted] at named
    exact named
  | ok text => rfl

/-! ### Reading one subquery -/

theorem qualifier_append (table : List Char) {column : List Char} (undotted : '.' ∉ column) :
    qualifier (table ++ '.' :: column) = table := by
  have passed : ∀ c ∈ column.reverse, (c != '.') = true := by
    intro c hc
    exact bne_iff_ne.2 fun same => undotted (same ▸ List.mem_reverse.1 hc)
  unfold qualifier
  rw [List.reverse_append, List.reverse_cons, List.append_assoc,
    List.dropWhile_append_of_pos passed]
  simp

/-- The text of a subquery from its parenthesis to its further conditions. -/
def correlated (table column outerTable outerColumn : List Char) : List Char :=
  selectMark ++ (table ++ (" WHERE ".toList ++ (table ++ ('.' :: (column ++
    (" = ".toList ++ (outerTable ++ '.' :: outerColumn)))))))

/-- The text of a subquery is read as it was written. -/
theorem read_correlated (around : List Char) {table column outerTable outerColumn : List Char}
    (solid : ∀ c ∈ table, c ≠ ' ' ∧ c ≠ '=') (plain : '=' ∉ column)
    (outer : ∀ c ∈ outerTable ++ '.' :: outerColumn, c ≠ ' ' ∧ c ≠ ')')
    (undotted : '.' ∉ outerColumn) {mark : Char} (ends : mark = ' ' ∨ mark = ')')
    (rest : List Char) :
    Subselect.read around (correlated table column outerTable outerColumn ++ mark :: rest) =
      ⟨around, table, outerTable⟩ := by
  have noBlank : ∀ c ∈ table, (c != ' ') = true := fun c hc => bne_iff_ne.2 (solid c hc).1
  have noEquals : ∀ c ∈ table, (c != '=') = true := fun c hc => bne_iff_ne.2 (solid c hc).2
  have column' : ∀ c ∈ column, (c != '=') = true :=
    fun c hc => bne_iff_ne.2 fun same => plain (same ▸ hc)
  have keyword : ∀ c ∈ " WHERE ".toList, (c != '=') = true := List.all_eq_true.1 rfl
  have reference : ((outerTable ++ '.' :: outerColumn) ++ mark :: rest).takeWhile
      (fun c => c != ' ' && c != ')') = outerTable ++ '.' :: outerColumn := by
    rw [List.takeWhile_append_of_pos fun c hc => by simpa using outer c hc]
    rcases ends with rfl | rfl <;> simp
  have clause : (correlated table column outerTable outerColumn ++ mark :: rest).drop
      selectMark.length = table ++ (" WHERE ".toList ++ (table ++ ('.' :: (column ++
        (" = ".toList ++ ((outerTable ++ '.' :: outerColumn) ++ mark :: rest)))))) := by
    rw [correlated, List.append_assoc, List.drop_left]
    simp only [List.append_assoc, List.cons_append]
  unfold Subselect.read
  rw [clause]
  dsimp only
  rw [List.takeWhile_append_of_pos noBlank, List.dropWhile_append_of_pos noEquals,
    List.dropWhile_append_of_pos keyword, List.dropWhile_append_of_pos noEquals,
    List.dropWhile_cons_of_pos (by decide), List.dropWhile_append_of_pos column']
  have follows : (" = ".toList ++ ((outerTable ++ '.' :: outerColumn) ++ mark :: rest)).dropWhile
      (· != '=') = '=' :: ' ' :: ((outerTable ++ '.' :: outerColumn) ++ mark :: rest) := rfl
  rw [follows, List.drop_succ_cons, List.drop_succ_cons, List.drop_zero, reference,
    qualifier_append outerTable undotted]
  simp

/-! ### Reading on -/

/-- No subquery has been announced at the end of a text, which is given from its end. -/
def Fresh (back : List Char) : Prop :=
  existsMark.isPrefixOf back = false

/-- Wherever the text stands in a query, after no announcement if it comes `first`, it holds the
subqueries `found`, which may depend on the table of that query. -/
def Holds (first : Bool) (text : List Char) (found : List Char → List Subselect) : Prop :=
  ∀ around outside back, (first = true → Fresh back) → ∃ back', ∀ rest,
    subselects around outside back (text ++ rest) =
      found around ++ subselects around outside back' rest

/-- The characters are no parentheses. -/
def Quiet (text : List Char) : Prop :=
  ∀ c ∈ text, c ≠ '(' ∧ c ≠ ')'

instance (text : List Char) : Decidable (Quiet text) :=
  List.decidableBAll (fun c => c ≠ '(' ∧ c ≠ ')') text

theorem number_quiet (n : Nat) : Quiet (toString n).toList := by
  intro c hc
  rw [Nat.toString_eq_repr, Nat.toList_repr] at hc
  have digit := Nat.isDigit_of_mem_toDigits (by decide) (by decide) hc
  constructor <;> rintro rfl <;> exact absurd digit (by decide)

/-- A text without parentheses is passed over. -/
theorem subselects_append {text : List Char} (quiet : Quiet text) (around : List Char)
    (outside : List (List Char)) (back rest : List Char) :
    subselects around outside back (text ++ rest) =
      subselects around outside (text.reverse ++ back) rest := by
  induction text generalizing back with
  | nil => rfl
  | cons c text ih =>
    obtain ⟨opening, closing⟩ := quiet c List.mem_cons_self
    rw [List.cons_append, subselects, if_neg opening, if_neg closing,
      ih fun d hd => quiet d (List.mem_cons_of_mem _ hd)]
    simp

namespace Holds

variable {first : Bool} {a b : List Char} {f g : List Char → List Subselect}

theorem weaken (h : Holds false a f) : Holds first a f :=
  fun around outside back _ => h around outside back fun none => nomatch none

theorem append (start : Holds first a f) (goesOn : Holds false b g) :
    Holds first (a ++ b) fun around => f around ++ g around := by
  intro around outside back fresh
  obtain ⟨middle, readStart⟩ := start around outside back fresh
  obtain ⟨last, readRest⟩ := goesOn around outside middle fun none => nomatch none
  refine ⟨last, fun rest => ?_⟩
  rw [List.append_assoc, readStart, readRest, List.append_assoc]

theorem quiet (h : Quiet a) : Holds first a fun _ => [] :=
  fun around outside back _ => ⟨a.reverse ++ back, subselects_append h around outside back⟩

/-- A text after one that announces nothing. -/
theorem after (h : Quiet a)
    (plain : ∀ back, (first = true → Fresh back) → Fresh (a.reverse ++ back))
    (goesOn : Holds true b f) : Holds first (a ++ b) f := by
  intro around outside back fresh
  obtain ⟨last, read⟩ := goesOn around outside (a.reverse ++ back) fun _ => plain back fresh
  exact ⟨last, fun rest => by rw [List.append_assoc, subselects_append h, read]⟩

/-- A text in parentheses after one that announces nothing. -/
theorem parenthesized (h : Quiet a)
    (plain : ∀ back, (first = true → Fresh back) → Fresh (a.reverse ++ back))
    (inner : Holds true b f) : Holds first (a ++ '(' :: (b ++ [')'])) f := by
  refine after h plain fun around outside back fresh => ?_
  have inside : Fresh ('(' :: back) := rfl
  obtain ⟨last, read⟩ := inner around (around :: outside) ('(' :: back) fun _ => inside
  refine ⟨')' :: last, fun rest => ?_⟩
  rw [List.cons_append, List.append_assoc, subselects, if_pos rfl, fresh rfl,
    if_neg Bool.false_ne_true, read]
  rfl

/-- A subquery, in front of the parenthesis that closes it or of further conditions. -/
theorem subquery (negated : Bool) {table column outerTable outerColumn more : List Char}
    (solid : ∀ c ∈ table, c ≠ ' ' ∧ c ≠ '(' ∧ c ≠ ')' ∧ c ≠ '=')
    (plain : ∀ c ∈ column, c ≠ '(' ∧ c ≠ ')' ∧ c ≠ '=')
    (outer : ∀ c ∈ outerTable ++ '.' :: outerColumn, c ≠ ' ' ∧ c ≠ '(' ∧ c ≠ ')')
    (undotted : '.' ∉ outerColumn) (goesOn : Holds false more f)
    (begins : ∀ c ∈ more.head?, c = ' ') :
    Holds first (((if negated then "NOT " else "") ++ "EXISTS ").toList ++
        '(' :: (correlated table column outerTable outerColumn ++ (more ++ [')'])))
      fun around => ⟨around, table, outerTable⟩ :: f table := by
  intro around outside back _
  let announced := ((if negated then "NOT " else "") ++ "EXISTS ").toList
  let clause := correlated table column outerTable outerColumn
  have quietAnnounced : Quiet announced := by
    cases negated <;> decide
  have announces : existsMark.isPrefixOf (announced.reverse ++ back) = true := by
    cases negated <;> rfl
  have quietClause : Quiet clause := by
    have quietTable : Quiet table := fun c hc => ⟨(solid c hc).2.1, (solid c hc).2.2.1⟩
    have mark : Quiet selectMark := by decide
    have keyword : Quiet " WHERE ".toList := by decide
    have equals : Quiet " = ".toList := by decide
    simp only [clause, correlated, Quiet, List.forall_mem_append, List.forall_mem_cons]
    exact ⟨mark, quietTable, keyword, quietTable, by decide,
      fun c hc => ⟨(plain c hc).1, (plain c hc).2.1⟩, equals,
      fun c hc => (outer c (List.mem_append_left _ hc)).2, by decide,
      fun c hc => (outer c (List.mem_append_right _ (List.mem_cons_of_mem _ hc))).2⟩
  have found (rest : List Char) : Subselect.read around (clause ++ (more ++ ')' :: rest)) =
      ⟨around, table, outerTable⟩ := by
    have reads {mark : Char} (ends : mark = ' ' ∨ mark = ')') (rest : List Char) :=
      read_correlated around (fun c hc => ⟨(solid c hc).1, (solid c hc).2.2.2⟩)
        (fun h => (plain _ h).2.2 rfl) (fun c hc => ⟨(outer c hc).1, (outer c hc).2.2⟩) undotted
        ends rest
    cases more with
    | nil => exact reads (Or.inr rfl) rest
    | cons c cs => exact reads (Or.inl (begins c rfl)) (cs ++ ')' :: rest)
  obtain ⟨last, read⟩ := goesOn table (around :: outside)
    (clause.reverse ++ '(' :: (announced.reverse ++ back)) fun none => nomatch none
  refine ⟨')' :: last, fun rest => ?_⟩
  have whole : announced ++ '(' :: (clause ++ (more ++ [')'])) ++ rest =
      announced ++ '(' :: (clause ++ (more ++ ')' :: rest)) := by
    simp
  rw [whole, subselects_append quietAnnounced, subselects, if_pos rfl, announces, if_pos rfl, found]
  dsimp only
  rw [subselects_append quietClause, read, subselects, if_neg (by decide), if_pos rfl]
  rfl

end Holds

end Sql

end EntityStore
