import EntityStore.Number.Decimal

/-!
# Values

The dynamic values that columns hold: null, booleans, numbers, texts, lists and objects. Numbers
keep the difference between integers and binary64 numbers. `Value.same` is the equality that
stored values are told apart by: it is structural, except that the two zeros of binary64 are the
same number.
-/

namespace EntityStore

/-- A number inside data: an integer of at most 64 bits, or a binary64 number. -/
inductive Number where
  | int (n : Int)
  | float (x : Binary64)
deriving DecidableEq, Repr, Inhabited

/-- A value of a column. The fields of an object are in ascending order of their names. -/
inductive Value where
  | null
  | bool (b : Bool)
  | number (n : Number)
  | text (s : String)
  | list (items : List Value)
  | object (fields : List (String × Value))
deriving Repr, Inhabited

namespace Number

/-- The number as binary64, rounded when it is an integer beyond 53 bits. -/
def toFloat : Number → Binary64
  | .int n => .ofInt n
  | .float x => x

/-- Equality of stored numbers: an integer never equals a binary64 number. -/
def same : Number → Number → Bool
  | .int m, .int n => m == n
  | .float x, .float y => x.same y
  | _, _ => false

/-- The text of a number inside data. -/
def dataText : Number → String
  | .int n => toString n
  | .float x => x.dataText

end Number

namespace Value

def int (n : Int) : Value := .number (.int n)

/-- A computed binary64 number as a value; one that is not finite is stored as null. -/
def ofFloat (x : Binary64) : Value :=
  if x.isFinite then .number (.float x) else .null

/-- A text that may be missing. -/
def optionalText : Option String → Value
  | some s => .text s
  | none => .null

/-- A natural number that may be missing. -/
def optionalNat : Option Nat → Value
  | some n => .int n
  | none => .null

def isNull : Value → Bool
  | .null => true
  | _ => false

def asText? : Value → Option String
  | .text s => some s
  | _ => none

/-- The value as a signed 64-bit integer. -/
def asInt64? : Value → Option Int
  | .number (.int n) => if fitsInt64 n then some n else none
  | _ => none

def isInt64 (v : Value) : Bool :=
  v.asInt64?.isSome

mutual

/-- Equality of stored values. -/
def same : Value → Value → Bool
  | .null, .null => true
  | .bool a, .bool b => a == b
  | .number a, .number b => a.same b
  | .text a, .text b => a == b
  | .list a, .list b => sameList a b
  | .object a, .object b => sameFields a b
  | _, _ => false

/-- Equality of stored lists. -/
def sameList : List Value → List Value → Bool
  | [], [] => true
  | a :: as, b :: bs => same a b && sameList as bs
  | _, _ => false

/-- Equality of stored fields, in their order. -/
def sameFields : List (String × Value) → List (String × Value) → Bool
  | [], [] => true
  | (k, a) :: as, (l, b) :: bs => k == l && same a b && sameFields as bs
  | _, _ => false

end

mutual

/-- Structural equality of values is decidable. -/
def decEq : (a b : Value) → Decidable (a = b)
  | .null, .null => isTrue rfl
  | .bool a, .bool b =>
    if h : a = b then isTrue (h ▸ rfl) else isFalse fun e => h (Value.bool.inj e)
  | .number a, .number b =>
    if h : a = b then isTrue (h ▸ rfl) else isFalse fun e => h (Value.number.inj e)
  | .text a, .text b =>
    if h : a = b then isTrue (h ▸ rfl) else isFalse fun e => h (Value.text.inj e)
  | .list a, .list b =>
    match decEqList a b with
    | isTrue h => isTrue (h ▸ rfl)
    | isFalse h => isFalse fun e => h (Value.list.inj e)
  | .object a, .object b =>
    match decEqFields a b with
    | isTrue h => isTrue (h ▸ rfl)
    | isFalse h => isFalse fun e => h (Value.object.inj e)
  | .null, .bool _ | .null, .number _ | .null, .text _ | .null, .list _ | .null, .object _
  | .bool _, .null | .bool _, .number _ | .bool _, .text _ | .bool _, .list _ | .bool _, .object _
  | .number _, .null | .number _, .bool _ | .number _, .text _ | .number _, .list _
  | .number _, .object _ | .text _, .null | .text _, .bool _ | .text _, .number _
  | .text _, .list _ | .text _, .object _ | .list _, .null | .list _, .bool _
  | .list _, .number _ | .list _, .text _ | .list _, .object _ | .object _, .null
  | .object _, .bool _ | .object _, .number _ | .object _, .text _ | .object _, .list _ =>
    isFalse (by simp)

/-- Structural equality of lists of values is decidable. -/
def decEqList : (a b : List Value) → Decidable (a = b)
  | [], [] => isTrue rfl
  | [], _ :: _ | _ :: _, [] => isFalse (by simp)
  | a :: as, b :: bs =>
    match decEq a b, decEqList as bs with
    | isTrue h, isTrue t => isTrue (h ▸ t ▸ rfl)
    | isFalse h, _ => isFalse fun e => h (List.cons.inj e).1
    | _, isFalse t => isFalse fun e => t (List.cons.inj e).2

/-- Structural equality of fields is decidable. -/
def decEqFields : (a b : List (String × Value)) → Decidable (a = b)
  | [], [] => isTrue rfl
  | [], _ :: _ | _ :: _, [] => isFalse (by simp)
  | (k, a) :: as, (l, b) :: bs =>
    if h : k = l then
      match decEq a b, decEqFields as bs with
      | isTrue g, isTrue t => isTrue (h ▸ g ▸ t ▸ rfl)
      | isFalse g, _ => isFalse fun e => g (Prod.mk.inj (List.cons.inj e).1).2
      | _, isFalse t => isFalse fun e => t (List.cons.inj e).2
    else isFalse fun e => h (Prod.mk.inj (List.cons.inj e).1).1

end

instance : DecidableEq Value := decEq

end Value

end EntityStore
