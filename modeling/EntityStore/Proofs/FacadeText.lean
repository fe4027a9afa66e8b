import EntityStore.Facade.Folder
import EntityStore.Proofs.DerivedNames
import EntityStore.Proofs.Markers

/-!
# The text of a facade

The source of a facade is a header and an empty block. No line of the header holds the mark that
markers are known by, as long as no name in the facade does: each of its lines is a name between two
fixed texts (`Text.unmarked_around`), neither of which can complete a part of the mark.
-/

namespace EntityStore

namespace Text

/-- What the markers are known by. -/
def mark : List Char := ['<', '<', '<', 'F', 'O', 'R', 'G', 'E']

/-- The mark is not in the text. -/
def Unmarked (s : String) : Prop :=
  ¬mark <:+: s.toList

instance (s : String) : Decidable (Unmarked s) :=
  inferInstanceAs (Decidable (¬_))

theorem unmarked_iff {s : String} : Unmarked s ↔ Block.Absent mark s.toList [] := by
  rw [Unmarked, List.infix_iff_prefix_suffix, not_exists]
  refine forall_congr' fun part => ?_
  rw [not_and', List.append_nil]
  refine forall_congr' fun _ => ⟨fun absent _ => absent, fun absent h => absent ?_ h⟩
  rintro rfl
  exact absurd (List.prefix_nil.1 h) (by decide)

/-- One of the texts begins the other. -/
def meets (a b : List Char) : Bool :=
  a.isPrefixOf b || b.isPrefixOf a

theorem not_prefix_of_meets {a b : List Char} (apart : meets a b = false) (t : List Char) :
    ¬a <+: b ++ t := by
  intro h
  rw [meets, Bool.or_eq_false_iff, Bool.eq_false_iff, Bool.eq_false_iff] at apart
  rcases List.prefix_or_prefix_of_prefix h (List.prefix_append b t) with inside | longer
  · exact apart.1 (List.isPrefixOf_iff_prefix.2 inside)
  · exact apart.2 (List.isPrefixOf_iff_prefix.2 longer)

/-- The mark does not begin in the text, whatever follows. -/
def isPlain (cs : List Char) : Bool :=
  cs.tails.all fun rest => rest.isEmpty || !meets mark rest

/-- The text does not begin as the mark goes on. -/
def isEnd (cs : List Char) : Bool :=
  (List.range mark.length).all fun k => k == 0 || !meets (mark.drop k) cs

theorem absent_of_isPlain {cs : List Char} (plain : isPlain cs = true) (t : List Char) :
    Block.Absent mark cs t := by
  intro rest suffix nonempty
  have apart := List.all_eq_true.1 plain rest ((List.mem_tails _ _).2 suffix)
  rw [Bool.or_eq_true, Bool.not_eq_true', List.isEmpty_iff] at apart
  exact not_prefix_of_meets (apart.resolve_left nonempty) t

theorem absent_of_unmarked {s : String} {cs : List Char} (plain : Unmarked s)
    (ends : isEnd cs = true) (t : List Char) : Block.Absent mark s.toList (cs ++ t) := by
  refine .of_not_inside plain fun k positive short => ?_
  have apart := List.all_eq_true.1 ends k (List.mem_range.2 short)
  rw [Bool.or_eq_true, Bool.not_eq_true', beq_iff_eq] at apart
  exact not_prefix_of_meets (apart.resolve_left (by omega)) t

-- A fixed text comes with its characters: a literal is made of them by definition, but to take one
-- apart its bytes would have to be decoded.
section

variable {fixed name name' : String} {cs : List Char} (chars : fixed = String.ofList cs)

include chars

/-- A fixed text. -/
theorem unmarked_fixed (checked : isPlain cs = true) : Unmarked fixed := by
  rw [unmarked_iff, chars, String.toList_ofList]
  exact absent_of_isPlain checked _

/-- A name without the mark behind a fixed text. -/
theorem unmarked_behind (checked : isPlain cs = true) (plain : Unmarked name) :
    Unmarked (fixed ++ name) := by
  rw [unmarked_iff, String.toList_append, chars, String.toList_ofList]
  exact (absent_of_isPlain checked _).append (unmarked_iff.1 plain)

/-- A fixed text between two names without the mark. -/
theorem unmarked_join (checked : (isPlain cs && isEnd cs) = true) (plain : Unmarked name)
    (plain' : Unmarked name') : Unmarked (name ++ fixed ++ name') := by
  rw [Bool.and_eq_true] at checked
  rw [unmarked_iff, String.toList_append, String.toList_append, chars, String.toList_ofList]
  exact ((absent_of_unmarked plain checked.2 _).append (absent_of_isPlain checked.1 _)).append
    (unmarked_iff.1 plain')

/-- A name without the mark in front of a fixed text. -/
theorem unmarked_before (checked : (isPlain cs && isEnd cs) = true) (plain : Unmarked name) :
    Unmarked (name ++ fixed) := by
  have joined := unmarked_join chars checked plain (show Unmarked "" by decide)
  rwa [String.append_empty] at joined

end

/-- A name without the mark between fixed texts. -/
theorem unmarked_around {before name after : String} {cs cs' : List Char} (plain : Unmarked name)
    (chars : before = String.ofList cs) (checked : isPlain cs = true)
    (chars' : after = String.ofList cs') (checked' : (isPlain cs' && isEnd cs') = true) :
    Unmarked (before ++ name ++ after) :=
  unmarked_before chars' checked' (unmarked_behind chars checked plain)

/-- A text without the first character of the mark. -/
theorem unmarked_of_not_mem {s : String} (plain : '<' ∉ s.toList) : Unmarked s :=
  unmarked_iff.2 (Block.Absent.of_not_mem plain)

theorem unmarked_snakeCase (name : String) : Unmarked (snakeCase name) :=
  unmarked_of_not_mem (not_mem_snakeCase (by decide) (by decide +kernel) (by decide) name)

end Text

open Text

/-! ### Names without the mark -/

/-- No name in the model holds the mark. -/
structure Model.Unmarked (m : Model) : Prop where
  name : Text.Unmarked m.name
  table : Text.Unmarked m.table
  columns : ∀ c ∈ m.columns, Text.Unmarked c.name
  relations : ∀ r ∈ m.relations, Text.Unmarked r.name

instance (m : Model) : Decidable m.Unmarked :=
  decidable_of_iff (Text.Unmarked m.name ∧ Text.Unmarked m.table ∧
    (∀ c ∈ m.columns, Text.Unmarked c.name) ∧ ∀ r ∈ m.relations, Text.Unmarked r.name)
    ⟨fun ⟨name, table, columns, relations⟩ => ⟨name, table, columns, relations⟩,
      fun ⟨name, table, columns, relations⟩ => ⟨name, table, columns, relations⟩⟩

namespace Facade

/-- No name in the facade holds the mark. -/
structure Unmarked (f : Facade) : Prop where
  entity : Text.Unmarked f.entity
  table : Text.Unmarked f.table
  fields : ∀ field ∈ f.fields, Text.Unmarked field.name ∧ Text.Unmarked field.column ∧
    Text.Unmarked field.type
  relations : ∀ r ∈ f.relations, Text.Unmarked r.name ∧ Text.Unmarked r.accessor

theorem unmarked_argumentType (t : FieldType) : Text.Unmarked t.argumentType := by
  cases t <;> exact unmarked_fixed rfl (by decide)

theorem unmarked_accessorName {r : Relation} (plain : Text.Unmarked r.name) :
    Text.Unmarked r.accessorName := by
  unfold Relation.accessorName
  split
  · exact unmarked_before rfl (by decide) plain
  · exact plain

theorem unmarked_ofModel {m : Model} (unmarked : m.Unmarked) : (ofModel m).Unmarked where
  entity := unmarked.name
  table := unmarked.table
  fields field mem := by
    obtain ⟨c, there, rfl⟩ := List.mem_map.1 mem
    refine ⟨unmarked_snakeCase c.name, unmarked.columns c (List.mem_filter.1 there).1, ?_⟩
    unfold FacadeField.ofColumn
    dsimp only
    split
    · exact unmarked_fixed rfl (by decide)
    · exact unmarked_argumentType _
  relations r mem := by
    obtain ⟨relation, there, rfl⟩ := List.mem_map.1 mem
    have plain := unmarked.relations relation there
    exact ⟨plain, unmarked_accessorName plain⟩

/-! ### The lines of the header -/

/-- The lines before the block. -/
def header (f : Facade) : List String :=
  ["// Generated by forge-codegen from the " ++ f.entity ++ " model definition.",
      "// Only the block between the FORGE markers survives regeneration.", "",
      "use forge_orm::prelude::*;", ""] ++
    f.querySection ++ f.relationSection

theorem toList_lines (ls : List String) :
    (lines ls).toList = ls.flatMap fun l => l.toList ++ ['\n'] := by
  have ended (l : String) : (l ++ "\n").toList = l.toList ++ ['\n'] := by
    rw [String.toList_append]
    rfl
  rw [lines, String.toList_join, List.flatMap_map]
  simp only [ended]

/-- Lines without the mark make up a text without it. -/
theorem unmarked_lines {ls : List String} (each : ∀ l ∈ ls, Text.Unmarked l) :
    Text.Unmarked (lines ls) := by
  rw [unmarked_iff, toList_lines]
  induction ls with
  | nil => exact .nil _ _
  | cons l ls ih =>
    rw [List.flatMap_cons]
    have newline : isEnd ['\n'] = true := by decide
    refine Block.Absent.append (Block.Absent.append ?_ (.of_not_mem (by decide)))
      (ih fun l mem => each l (List.mem_cons_of_mem _ mem))
    exact absent_of_unmarked (each l List.mem_cons_self) newline _

theorem unmarked_method {head body : String} (plain : Text.Unmarked head)
    (plainBody : Text.Unmarked body) : ∀ l ∈ method head body, Text.Unmarked l := by
  have opens : Text.Unmarked ("    " ++ head ++ " \x7b") :=
    unmarked_around plain rfl (by decide) rfl (by decide)
  have holds : Text.Unmarked ("        " ++ body) := unmarked_behind rfl (by decide) plainBody
  simp only [method, List.forall_mem_cons]
  exact ⟨opens, holds, unmarked_fixed rfl (by decide), unmarked_fixed rfl (by decide),
    fun _ none => nomatch none⟩

theorem unmarked_predicate {field : FacadeField} (name : Text.Unmarked field.name)
    (column : Text.Unmarked field.column) (type : Text.Unmarked field.type) :
    ∀ l ∈ predicate field, Text.Unmarked l := by
  refine unmarked_method ?_ (unmarked_around column rfl (by decide) rfl (by decide))
  refine unmarked_before rfl (by decide) ?_
  exact unmarked_join rfl (by decide) (unmarked_behind rfl (by decide) name) type

theorem unmarked_accessor {r : FacadeRelation} (name : Text.Unmarked r.name)
    (accessor : Text.Unmarked r.accessor) : ∀ l ∈ Facade.accessor r, Text.Unmarked l := by
  unfold Facade.accessor
  split <;>
    exact unmarked_method (unmarked_around accessor rfl (by decide) rfl (by decide))
      (unmarked_around name rfl (by decide) rfl (by decide))

section

variable {f : Facade} (unmarked : f.Unmarked)

include unmarked

theorem unmarked_querySection : ∀ l ∈ f.querySection, Text.Unmarked l := by
  have finder : Text.Unmarked ("Ok(Self(db.model(\"" ++ f.entity ++ "\")?.query()))") :=
    unmarked_around unmarked.entity rfl (by decide) rfl (by decide)
  have predicates : ∀ field ∈ f.fields, ∀ l ∈ predicate field, Text.Unmarked l :=
    fun field mem => unmarked_predicate (unmarked.fields field mem).1
      (unmarked.fields field mem).2.1 (unmarked.fields field mem).2.2
  simp only [querySection, List.forall_mem_append, List.forall_mem_cons, List.forall_mem_flatMap,
    List.not_mem_nil, false_implies, implies_true, and_true]
  refine ⟨⟨⟨⟨⟨⟨⟨?_, unmarked_fixed rfl (by decide), ?_, unmarked_fixed rfl (by decide), ?_⟩, ?_⟩,
    ?_⟩, ?_⟩, ?_⟩, predicates⟩, unmarked_fixed rfl (by decide), unmarked_fixed rfl (by decide)⟩
  · exact unmarked_around unmarked.table rfl (by decide) rfl (by decide)
  · exact unmarked_around unmarked.entity rfl (by decide) rfl (by decide)
  · exact unmarked_around unmarked.entity rfl (by decide) rfl (by decide)
  · exact unmarked_method (unmarked_fixed rfl (by decide)) finder
  · exact unmarked_method (unmarked_fixed rfl (by decide)) (unmarked_fixed rfl (by decide))
  · exact unmarked_method (unmarked_fixed rfl (by decide)) (unmarked_fixed rfl (by decide))
  · exact unmarked_method (unmarked_fixed rfl (by decide)) (unmarked_fixed rfl (by decide))

theorem unmarked_relationSection : ∀ l ∈ f.relationSection, Text.Unmarked l := by
  have accessors : ∀ r ∈ f.relations, ∀ l ∈ Facade.accessor r, Text.Unmarked l :=
    fun r mem => unmarked_accessor (unmarked.relations r mem).1 (unmarked.relations r mem).2
  have pair : Text.Unmarked ("Self " ++ braced " db, instance ") :=
    unmarked_behind rfl (by decide)
      (unmarked_around (unmarked_fixed rfl (by decide)) rfl (by decide) rfl (by decide))
  unfold relationSection
  split
  · exact fun _ none => nomatch none
  simp only [List.forall_mem_append, List.forall_mem_cons, List.forall_mem_flatMap,
    List.not_mem_nil, false_implies, implies_true, and_true]
  refine ⟨⟨⟨⟨?_, ?_, unmarked_fixed rfl (by decide), unmarked_fixed rfl (by decide),
    unmarked_fixed rfl (by decide), unmarked_fixed rfl (by decide), ?_⟩, ?_⟩, accessors⟩,
    unmarked_fixed rfl (by decide), unmarked_fixed rfl (by decide)⟩
  · exact unmarked_around unmarked.entity rfl (by decide) rfl (by decide)
  · exact unmarked_around unmarked.entity rfl (by decide) rfl (by decide)
  · exact unmarked_around unmarked.entity rfl (by decide) rfl (by decide)
  · exact unmarked_method (unmarked_fixed rfl (by decide)) pair

theorem unmarked_header : ∀ l ∈ f.header, Text.Unmarked l := by
  simp only [header, List.forall_mem_append, List.forall_mem_cons, List.not_mem_nil, false_implies,
    implies_true, and_true]
  refine ⟨⟨⟨?_, unmarked_fixed rfl (by decide), unmarked_fixed rfl (by decide),
    unmarked_fixed rfl (by decide), unmarked_fixed rfl (by decide)⟩,
    unmarked_querySection unmarked⟩, unmarked_relationSection unmarked⟩
  exact unmarked_around unmarked.entity rfl (by decide) rfl (by decide)

end

/-! ### The frame of the module -/

/-- The text of a model's file before its block. -/
def head (m : Model) : List Char :=
  (lines (ofModel m).header).toList

/-- The source is the header and an empty block. -/
theorem toList_source (m : Model) :
    (ofModel m).source.toList = Block.frame (head m) (moduleName m).toList ['\n'] := by
  have parts : (ofModel m).source = lines ((ofModel m).header ++
    ["// <<<FORGE:BEGIN custom:" ++ moduleName m ++ ">>>",
      "// <<<FORGE:END custom:" ++ moduleName m ++ ">>>"]) := rfl
  have beginning : "// <<<FORGE:BEGIN custom:".toList = Block.markerHead "BEGIN" :=
    by decide +kernel
  have ending : "// <<<FORGE:END custom:".toList = Block.markerHead "END" := by decide +kernel
  have closing : ">>>".toList = Block.markerTail := by decide
  rw [parts, toList_lines, List.flatMap_append, List.flatMap_cons, List.flatMap_cons,
    List.flatMap_nil]
  simp only [head, String.toList_append, toList_lines, beginning, ending, closing, Block.frame,
    Block.marker, List.append_assoc, List.append_nil]

/-- The mark is in the beginning of every marker. -/
theorem mark_inside : mark <:+: Block.markerStart := by
  decide

theorem isFrame_head {m : Model} (unmarked : m.Unmarked) :
    Block.IsFrame (head m) (moduleName m).toList where
  plain inside :=
    unmarked_lines (unmarked_header (unmarked_ofModel unmarked)) (mark_inside.trans inside)
  unslashed := not_mem_snakeCase (by decide) (by decide +kernel) (by decide) m.name
  open_ := not_mem_snakeCase (by decide) (by decide +kernel) (by decide) m.name

end Facade

end EntityStore
