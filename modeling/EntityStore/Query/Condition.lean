import EntityStore.Query.Operator

/-!
# Conditions

A condition tree is a list of conditions, each joined to the ones before it by AND or OR. AND binds
tighter: every OR starts a new segment (`ConditionTree.segments`), and the tree holds when all
conditions of some segment hold. A group is a tree in parentheses, and `related` asks whether
another table holds a row that is linked to the current one and satisfies a tree of its own.
-/

namespace EntityStore

/-- The link of an inner row to the row outside: `inner = outerTable.outerColumn`. -/
structure Correlation where
  inner : String
  outerTable : String
  outerColumn : String
deriving DecidableEq, Repr

/-- A condition on one row. -/
inductive Condition where
  | compare (column : String) (operator : Operator) (value : Value)
  | columns (first : String) (operator : Operator) (second : String)
  | isIn (column : String) (values : List Value)
  | notIn (column : String) (values : List Value)
  | isNull (column : String)
  | notNull (column : String)
  | between (column : String) (low high : Value)
  | group (tree : List (Conjunction × Condition))
  | related (negated : Bool) (table : String) (correlation : Correlation)
      (tree : List (Conjunction × Condition))
deriving Repr

/-- Conditions with the conjunctions that join them. -/
abbrev ConditionTree := List (Conjunction × Condition)

namespace Condition

/-- At least one column has its value; an empty list of alternatives is refused. -/
def anyOf (alternatives : List (String × Value)) : Except Error Condition :=
  if alternatives.isEmpty then .error .noAlternatives
  else .ok (.group (alternatives.map fun (column, value) => (.or, .compare column .eq value)))

/-- A value between exactly two bounds, both included. -/
def ofBounds (column : String) (values : List Value) : Except Error Condition :=
  match values with
  | [low, high] => .ok (.between column low high)
  | _ => .error (.rangeBounds column values.length)

mutual

/-- A condition as data: its sort, followed by its parts. -/
def toValue : Condition → Value
  | .compare column operator value =>
    .list [.text "compare", .text column, .text operator.text, value]
  | .columns first operator second =>
    .list [.text "column", .text first, .text operator.text, .text second]
  | .isIn column values => .list [.text "in", .text column, .list values]
  | .notIn column values => .list [.text "not_in", .text column, .list values]
  | .isNull column => .list [.text "null", .text column]
  | .notNull column => .list [.text "not_null", .text column]
  | .between column low high => .list [.text "between", .text column, low, high]
  | .group tree => .list [.text "group", .list (treeValues tree)]
  | .related negated table correlation tree =>
    .list [.text (if negated then "not_exists" else "exists"), .text table,
      .list [.text correlation.inner, .text correlation.outerTable, .text correlation.outerColumn],
      .list (treeValues tree)]

/-- The conditions of a tree as data, each with its conjunction. -/
def treeValues : ConditionTree → List Value
  | [] => []
  | (conjunction, c) :: rest => .list [.text conjunction.text, toValue c] :: treeValues rest

end

end Condition

namespace ConditionTree

/-- The tree as data. -/
def toValue (tree : ConditionTree) : Value :=
  .list (Condition.treeValues tree)

/-- The tree with one more condition, joined by AND. -/
def also (tree : ConditionTree) (c : Condition) : ConditionTree :=
  tree ++ [(.and, c)]

/-- The tree with one more condition, joined by OR. -/
def orElse (tree : ConditionTree) (c : Condition) : ConditionTree :=
  tree ++ [(.or, c)]

/-- The tree with all of `other` as one group; an empty group adds nothing. -/
def andGroup (tree other : ConditionTree) : ConditionTree :=
  if other.isEmpty then tree else tree.also (.group other)

/-- Some condition is joined by OR. -/
def hasOr (tree : ConditionTree) : Bool :=
  tree.any fun node => node.1 = .or

/-- A tree to which a condition can be added that then applies to every segment: as it is, or as one
group when it holds an OR. -/
def enclosed (tree : ConditionTree) : ConditionTree :=
  if tree.hasOr then [(.and, .group tree)] else tree

/-- The segments after the one that `segment` begins. -/
def segmentsFrom (segment : ConditionTree) : ConditionTree → List ConditionTree
  | [] => [segment]
  | node :: rest =>
    if node.1 = .or then segment :: segmentsFrom [node] rest
    else segmentsFrom (segment ++ [node]) rest

/-- The parts between the ORs. The conjunction of the first condition joins nothing. -/
def segments : ConditionTree → List ConditionTree
  | [] => []
  | node :: rest => segmentsFrom [node] rest

end ConditionTree

end EntityStore
