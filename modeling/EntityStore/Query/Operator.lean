import EntityStore.Error
import EntityStore.Text.Alphabet
import EntityStore.Text.Case

/-!
# Operators

The small vocabularies of queries with their written forms: comparison operators, conjunctions,
joins, sort directions and aggregate functions.
-/

namespace EntityStore

/-- A comparison of two values. -/
inductive Operator where
  | eq
  | ne
  | gt
  | ge
  | lt
  | le
  | like
  | notLike
deriving DecidableEq, Repr

namespace Operator

/-- The written form. -/
def text : Operator → String
  | .eq => "="
  | .ne => "!="
  | .gt => ">"
  | .ge => ">="
  | .lt => "<"
  | .le => "<="
  | .like => "LIKE"
  | .notLike => "NOT LIKE"

/-- Reads an operator in any letter case, with blanks around it. -/
def ofText (source : String) : Except Error Operator :=
  match Text.lower (Text.trim source) with
  | "=" | "==" => .ok .eq
  | "!=" | "<>" => .ok .ne
  | ">" => .ok .gt
  | ">=" => .ok .ge
  | "<" => .ok .lt
  | "<=" => .ok .le
  | "like" => .ok .like
  | "not like" => .ok .notLike
  | other => .error (.unsupportedOperator other)

end Operator

/-- How a condition joins the conditions before it. -/
inductive Conjunction where
  | and
  | or
deriving DecidableEq, Repr

def Conjunction.text : Conjunction → String
  | .and => "AND"
  | .or => "OR"

/-- Whether rows without a partner are kept. -/
inductive JoinKind where
  | inner
  | left
deriving DecidableEq, Repr

def JoinKind.text : JoinKind → String
  | .inner => "INNER JOIN"
  | .left => "LEFT JOIN"

/-- A table joined where the columns `first` and `second` agree. -/
structure Join where
  kind : JoinKind
  table : String
  first : String
  second : String
deriving DecidableEq, Repr

inductive Direction where
  | asc
  | desc
deriving DecidableEq, Repr

namespace Direction

def text : Direction → String
  | .asc => "ASC"
  | .desc => "DESC"

/-- Reads a direction in any letter case, with blanks around it. -/
def ofText (source : String) : Except Error Direction :=
  match Text.lower (Text.trim source) with
  | "asc" => .ok .asc
  | "desc" => .ok .desc
  | other => .error (.unsupportedDirection other)

end Direction

/-- One key of an ordering. -/
inductive Order where
  | column (name : String) (direction : Direction)
  | random
deriving DecidableEq, Repr

inductive Aggregate where
  | count
  | sum
  | avg
  | min
  | max
deriving DecidableEq, Repr

/-- Every aggregate with its name in small letters. -/
def Aggregate.names : List (String × Aggregate) :=
  [("count", .count), ("sum", .sum), ("avg", .avg), ("min", .min), ("max", .max)]

def Aggregate.text : Aggregate → String
  | .count => "COUNT"
  | .sum => "SUM"
  | .avg => "AVG"
  | .min => "MIN"
  | .max => "MAX"

end EntityStore
