import EntityStore.Proofs.Tokens
import EntityStore.Store.Basic

/-!
# Precedence

The words of a rendered tree form a boolean expression: parentheses bind tightest, then AND, then OR
(`Sql.Reads`). It has one value only (`Sql.Reads.unique`), and whichever predicates hold, that is the
value of the tree, which asks for one segment between ORs in which all conditions hold
(`Sql.treePieces_means`).
-/

namespace EntityStore

/-! ### The value of a tree -/

/-- Some segment of the tree has only conditions that hold; an empty tree asks nothing. -/
def ConditionTree.holds (f : Condition → Bool) (tree : ConditionTree) : Bool :=
  tree.isEmpty || tree.segments.any fun segment => segment.all fun node => f node.2

namespace Condition

variable (truth : Condition → Bool)

mutual

/-- The value of a condition, given those of the conditions that are no groups. -/
def value : Condition → Bool
  | .group tree => treeValue tree
  | c => truth c

/-- The value of a tree. -/
def treeValue : ConditionTree → Bool
  | [] => true
  | (_, c) :: rest => restValue (value c) rest

/-- The value of the rest of a tree, given that of the segment before it so far. -/
def restValue (segment : Bool) : ConditionTree → Bool
  | [] => segment
  | (conjunction, c) :: rest =>
    if conjunction = .or then segment || restValue (value c) rest
    else restValue (segment && value c) rest

end

theorem value_atomic {c : Condition} (atomic : c.isAtomic = true) : c.value truth = truth c := by
  cases c with
  | group tree => cases atomic
  | _ => rw [value]; exact fun _ h => nomatch h

theorem restValue_segmentsFrom (segment rest : ConditionTree) :
    restValue truth (segment.all fun node => node.2.value truth) rest =
      (ConditionTree.segmentsFrom segment rest).any fun s => s.all fun node => node.2.value truth := by
  induction rest generalizing segment with
  | nil => simp [restValue, ConditionTree.segmentsFrom]
  | cons node rest ih =>
    obtain ⟨conjunction, c⟩ := node
    rw [restValue, ConditionTree.segmentsFrom]
    by_cases opens : conjunction = .or
    · have next := ih [(conjunction, c)]
      simp only [List.all_cons, List.all_nil, Bool.and_true] at next
      rw [if_pos opens, if_pos opens, next, List.any_cons]
    · have longer := ih (segment ++ [(conjunction, c)])
      simp only [List.all_append, List.all_cons, List.all_nil, Bool.and_true] at longer
      rw [if_neg opens, if_neg opens, longer]

theorem treeValue_holds (tree : ConditionTree) :
    treeValue truth tree = tree.holds (Condition.value truth) := by
  cases tree with
  | nil => rfl
  | cons node rest =>
    obtain ⟨conjunction, c⟩ := node
    have first := restValue_segmentsFrom truth [(conjunction, c)] rest
    simp only [List.all_cons, List.all_nil, Bool.and_true] at first
    rw [treeValue, first]
    rfl

end Condition

namespace Store

variable (store : Store) (scope : Scope)

mutual

/-- What a store says about the predicates decides every condition. -/
theorem value_satisfies (c : Condition) : c.value (store.satisfies scope) = store.satisfies scope c := by
  by_cases atomic : c.isAtomic = true
  · exact Condition.value_atomic _ atomic
  · cases c with
    | group tree =>
      rw [Condition.value, satisfies]
      exact treeValue_satisfies tree
    | _ => exact absurd rfl atomic

theorem treeValue_satisfies (tree : ConditionTree) :
    Condition.treeValue (store.satisfies scope) tree = store.satisfiesTree scope tree := by
  cases tree with
  | nil => rw [Condition.treeValue, satisfiesTree]
  | cons node rest =>
    obtain ⟨conjunction, c⟩ := node
    rw [Condition.treeValue, satisfiesTree, value_satisfies c]
    exact restValue_satisfies rest _

theorem restValue_satisfies (rest : ConditionTree) (segment : Bool) :
    Condition.restValue (store.satisfies scope) segment rest =
      store.satisfiesRest scope segment rest := by
  cases rest with
  | nil => rw [Condition.restValue, satisfiesRest]
  | cons node rest =>
    obtain ⟨conjunction, c⟩ := node
    have tail (segment : Bool) := restValue_satisfies rest segment
    rw [Condition.restValue, satisfiesRest, value_satisfies c, tail, tail]

end

end Store

mutual

/-- No group of the condition is empty, at any depth. -/
def Condition.isFilled : Condition → Bool
  | .group tree => !tree.isEmpty && treeIsFilled tree
  | _ => true

/-- No group of the tree is empty, at any depth. -/
def treeIsFilled : ConditionTree → Bool
  | [] => true
  | (_, c) :: rest => c.isFilled && treeIsFilled rest

end

namespace Sql

/-! ### Expressions -/

/-- The ranks of expressions: an OR joins terms, an AND joins factors. -/
inductive Rank where
  | expression
  | term
  | factor

/-- The words are an expression of the rank, with the value. -/
inductive Reads : Rank → List (Token Bool) → Bool → Prop where
  | atom (v : Bool) : Reads .factor [.atom v] v
  | parenthesized {words : List (Token Bool)} {v : Bool} (inner : Reads .expression words v) :
    Reads .factor (.opening :: words ++ [.closing]) v
  | factor {words : List (Token Bool)} {v : Bool} (h : Reads .factor words v) : Reads .term words v
  | and {words more : List (Token Bool)} {v w : Bool} (left : Reads .term words v)
    (right : Reads .factor more w) : Reads .term (words ++ .and :: more) (v && w)
  | term {words : List (Token Bool)} {v : Bool} (h : Reads .term words v) : Reads .expression words v
  | or {words more : List (Token Bool)} {v w : Bool} (left : Reads .expression words v)
    (right : Reads .term more w) : Reads .expression (words ++ .or :: more) (v || w)

/-- The state of a reader that takes one word after the other: `any` is the value of the finished
terms of the current expression, `all` that of the factors of its current term, and `outside` holds
the same of the expressions around it. -/
structure Reader where
  any : Bool
  all : Bool
  outside : List (Bool × Bool)

namespace Reader

def step (r : Reader) : Token Bool → Reader
  | .atom v => { r with all := r.all && v }
  | .and => r
  | .or => { r with any := r.any || r.all, all := true }
  | .opening => ⟨false, true, (r.any, r.all) :: r.outside⟩
  | .closing =>
    match r.outside with
    | [] => r
    | (any, all) :: rest => ⟨any, all && (r.any || r.all), rest⟩

def run (r : Reader) (words : List (Token Bool)) : Reader :=
  words.foldl step r

theorem run_append (r : Reader) (words more : List (Token Bool)) :
    r.run (words ++ more) = (r.run words).run more :=
  List.foldl_append

theorem run_cons (r : Reader) (word : Token Bool) (words : List (Token Bool)) :
    r.run (word :: words) = (r.step word).run words := rfl

/-- A term or a factor is one more factor of the current term; an expression, where no term has
begun, adds its terms to those before it. -/
def Takes : Rank → List (Token Bool) → Bool → Prop
  | .expression, words, v => ∀ any outside, ∃ any' all',
    run ⟨any, true, outside⟩ words = ⟨any', all', outside⟩ ∧ (any' || all') = (any || v)
  | _, words, v => ∀ any all outside, run ⟨any, all, outside⟩ words = ⟨any, all && v, outside⟩

end Reader

namespace Reads

/-- The reader finds the value of every expression. -/
theorem takes {rank : Rank} {words : List (Token Bool)} {v : Bool} (h : Reads rank words v) :
    Reader.Takes rank words v := by
  induction h with
  | atom v => exact fun any all outside => rfl
  | @parenthesized words v _ ih =>
    intro any all outside
    obtain ⟨any', all', inner, value⟩ := ih false ((any, all) :: outside)
    rw [List.cons_append, Reader.run_cons, Reader.run_append, Reader.step, inner]
    change (⟨any, all && (any' || all'), outside⟩ : Reader) = _
    rw [value, Bool.false_or]
  | factor _ ih => exact ih
  | @and words more v w _ _ left right =>
    intro any all outside
    rw [Reader.run_append, Reader.run_cons, left, Reader.step, right, Bool.and_assoc]
  | @term words v _ ih =>
    intro any outside
    refine ⟨any, v, ?_, rfl⟩
    rw [ih, Bool.true_and]
  | @or words more v w _ _ left right =>
    intro any outside
    -- The OR moves the last term to the finished ones, so the right side starts like an expression.
    obtain ⟨any', all', first, value⟩ := left any outside
    refine ⟨any' || all', w, ?_, ?_⟩
    · rw [Reader.run_append, Reader.run_cons, first, Reader.step, right, Bool.true_and]
    · rw [value, Bool.or_assoc]

/-- An expression has one value. -/
theorem unique {words : List (Token Bool)} {v w : Bool} (h : Reads .expression words v)
    (h' : Reads .expression words w) : v = w := by
  obtain ⟨any, all, run, value⟩ := h.takes false []
  obtain ⟨any', all', run', value'⟩ := h'.takes false []
  rw [run] at run'
  cases run'
  rw [Bool.false_or] at value value'
  rw [← value, ← value']

/-- Every expression has words. -/
theorem ne_nil {rank : Rank} {words : List (Token Bool)} {v : Bool} (h : Reads rank words v) :
    words ≠ [] := by
  induction h with
  | atom | parenthesized | and | or => simp
  | factor _ ih | term _ ih => exact ih

end Reads

/-- The words lead up to the end of a factor: `all` is the value of the term that it ends, `any` that
of the terms before. -/
inductive Begun : List (Token Bool) → Bool → Bool → Prop where
  | first {words : List (Token Bool)} {all : Bool} (h : Reads .term words all) :
    Begun words false all
  | later {words more : List (Token Bool)} {any all : Bool} (before : Reads .expression words any)
    (h : Reads .term more all) : Begun (words ++ .or :: more) any all

namespace Begun

variable {words more : List (Token Bool)} {any all v : Bool}

theorem reads (h : Begun words any all) : Reads .expression words (any || all) := by
  cases h with
  | first h =>
    rw [Bool.false_or]
    exact .term h
  | later before h => exact .or before h

theorem and (h : Begun words any all) (factor : Reads .factor more v) :
    Begun (words ++ .and :: more) any (all && v) := by
  cases h with
  | first h => exact .first (.and h factor)
  | later before h =>
    rw [List.append_assoc, List.cons_append]
    exact .later before (.and h factor)

theorem or (h : Begun words any all) (factor : Reads .factor more v) :
    Begun (words ++ .or :: more) (any || all) v :=
  .later h.reads (.factor factor)

end Begun

theorem Token.map_ofConjunction {α β : Type} (f : α → β) (c : Conjunction) :
    (Token.ofConjunction c).map f = .ofConjunction c := by
  cases c <;> rfl

variable (truth : Condition → Bool)

mutual

/-- The words of a condition are a factor. -/
theorem conditionTokens_reads (c : Condition) (filled : c.isFilled = true) :
    Reads .factor ((conditionTokens c).map (Token.map truth)) (c.value truth) := by
  by_cases atomic : c.isAtomic = true
  · rw [conditionTokens_atomic atomic, Condition.value_atomic truth atomic]
    exact .atom _
  · cases c with
    | group tree =>
      rw [Condition.isFilled, Bool.and_eq_true] at filled
      have nonempty : tree ≠ [] := by simpa using filled.1
      rw [conditionTokens, Condition.value, List.map_append, List.map_cons]
      exact .parenthesized (treeTokens_reads tree nonempty filled.2)
    | _ => exact absurd rfl atomic

/-- The words of a tree are an expression. -/
theorem treeTokens_reads (tree : ConditionTree) (nonempty : tree ≠ [])
    (filled : treeIsFilled tree = true) :
    Reads .expression ((treeTokens true tree).map (Token.map truth))
      (Condition.treeValue truth tree) := by
  cases tree with
  | nil => exact absurd rfl nonempty
  | cons node rest =>
    obtain ⟨conjunction, c⟩ := node
    rw [treeIsFilled, Bool.and_eq_true] at filled
    have first := Begun.first (.factor (conditionTokens_reads c filled.1))
    rw [treeTokens, Condition.treeValue, if_pos rfl, List.nil_append, List.map_append]
    have goesOn := restTokens_reads rest filled.2 first
    rwa [Bool.false_or] at goesOn

/-- The words of the rest of a tree go on with an expression that has begun. -/
theorem restTokens_reads (rest : ConditionTree) (filled : treeIsFilled rest = true)
    {words : List (Token Bool)} {any segment : Bool} (begun : Begun words any segment) :
    Reads .expression (words ++ (treeTokens false rest).map (Token.map truth))
      (any || Condition.restValue truth segment rest) := by
  cases rest with
  | nil =>
    rw [treeTokens, Condition.restValue, List.map_nil, List.append_nil]
    exact begun.reads
  | cons node rest =>
    obtain ⟨conjunction, c⟩ := node
    rw [treeIsFilled, Bool.and_eq_true] at filled
    have factor := conditionTokens_reads c filled.1
    have shape : words ++ (treeTokens false ((conjunction, c) :: rest)).map (Token.map truth) =
        (words ++ .ofConjunction conjunction :: (conditionTokens c).map (Token.map truth)) ++
          (treeTokens false rest).map (Token.map truth) := by
      simp [treeTokens, Token.map_ofConjunction]
    rw [shape, Condition.restValue]
    -- An OR ends the term that has begun where the evaluator ends a segment, and an AND goes on with
    -- both.
    cases conjunction with
    | or =>
      rw [if_pos rfl, ← Bool.or_assoc]
      exact restTokens_reads rest filled.2 (begun.or factor)
    | and =>
      rw [if_neg (by decide)]
      exact restTokens_reads rest filled.2 (begun.and factor)

end

/-- The value of an expression that may be left out: without one, everything is accepted. -/
inductive Means : List (Token Bool) → Bool → Prop where
  | nothing : Means [] true
  | expression {words : List (Token Bool)} {v : Bool} (h : Reads .expression words v) : Means words v

theorem Means.unique {words : List (Token Bool)} {v w : Bool} (h : Means words v) (h' : Means words w) :
    v = w := by
  cases h with
  | nothing =>
    cases h' with
    | nothing => rfl
    | expression h' => exact absurd rfl h'.ne_nil
  | expression h =>
    cases h' with
    | nothing => exact absurd rfl h.ne_nil
    | expression h' => exact h.unique h'

theorem treeTokens_means {tree : ConditionTree} (filled : treeIsFilled tree = true) :
    Means ((treeTokens true tree).map (Token.map truth)) (tree.holds (Condition.value truth)) := by
  rw [← Condition.treeValue_holds]
  cases tree with
  | nil =>
    rw [treeTokens, Condition.treeValue]
    exact .nothing
  | cons node rest => exact .expression (treeTokens_reads truth _ (List.cons_ne_nil _ _) filled)

/-- **The renderer and the evaluator read AND and OR alike.** What is written for a tree without empty
groups is an expression of predicates, each as it is written by itself. Whichever of them hold, the
expression has the value that the tree has by its segments; the evaluator answers this value. -/
theorem treePieces_means (types : ColumnTypes) (table : String) (having : Bool) {tree : ConditionTree}
    {pieces : List Piece} (filled : treeIsFilled tree = true)
    (written : treePieces types table having true tree = .ok pieces) :
    ∃ words : List (Token Condition), (∀ c, .atom c ∈ words → c.isAtomic = true) ∧
      words.mapM (Token.spelled types table having) = .ok (tokenize [] 0 pieces) ∧
      (∀ truth v, Means (words.map (Token.map truth)) v ↔ v = tree.holds (Condition.value truth)) ∧
      ∀ (store : Store) scope,
        tree.holds (Condition.value (store.satisfies scope)) = store.satisfiesTree scope tree := by
  refine ⟨treeTokens true tree, isAtomic_of_mem_treeTokens true tree, ?_, ?_, ?_⟩
  · have reads := treePieces_written types table having true tree
    rw [written] at reads
    obtain ⟨spelled, hspelled, reads⟩ := reads
    have all : tokenize [] 0 pieces = spelled := by simpa [tokenize, finished] using reads [] .nil
    rw [hspelled, all]
  · intro truth v
    have means := treeTokens_means truth filled
    constructor
    · intro h
      exact h.unique means
    · rintro rfl
      exact means
  · intro store scope
    rw [← Condition.treeValue_holds, store.treeValue_satisfies]

/-- Orders with a total in a range and without a reason to wait, and those without items. -/
def due : ConditionTree :=
  [(.or, .between "total" (.int 1) (.int 9)),
    (.and, .group [(.and, .isNull "hold"), (.or, .compare "state" .eq (.text "open"))]),
    (.or, .related true "items" ⟨"order_id", "orders", "id"⟩ [(.or, .isIn "kind" [.int 1, .int 2])])]

/-- The bounds of the range and the subquery of the tree stay in their predicates. -/
theorem treePieces_means_due : ∃ pieces, treePieces {} "orders" false true due = .ok pieces ∧
    (tokenize [] 0 pieces).map (Token.map fun _ => ()) = [.atom (), .and, .opening, .atom (), .or,
      .atom (), .closing, .or, .atom ()] ∧
    ∃ words : List (Token Condition),
      words.mapM (Token.spelled {} "orders" false) = .ok (tokenize [] 0 pieces) ∧
      ∀ truth v, Means (words.map (Token.map truth)) v ↔ v = due.holds (Condition.value truth) := by
  have filled : treeIsFilled due = true := by decide
  obtain ⟨pieces, written⟩ : ∃ pieces, treePieces {} "orders" false true due = .ok pieces := ⟨_, rfl⟩
  obtain ⟨words, _, spelled, means, _⟩ := treePieces_means {} "orders" false filled written
  refine ⟨pieces, written, ?_, words, spelled, means⟩
  cases written
  decide +kernel

end Sql

end EntityStore
