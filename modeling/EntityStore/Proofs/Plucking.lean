import EntityStore.Proofs.Cursor
import EntityStore.Proofs.SmallLetters

/-!
# The values of a column

Plucking asks for one column expression of every row. The selection cuts the expression into the
column that it reads and a label, and what is answered is looked up under a key that is cut out of
the expression once more. Both cuts are counted in bytes of the expression in small letters, which
can be more or fewer than its own, and the key is cut out of ASCII only: in other expressions the
label counts for the selection alone. `ColumnName.sourceOf` says which column an expression names;
plucking is right for all rows of all queries exactly when the two cuts agree with it and with each
other (`ColumnName.Agrees`), as they do where the expression is ASCII or gives no label. Main
result: `Query.plucks_iff`.
-/

namespace EntityStore

namespace ColumnName

theorem aliasMark?_append {cs : List Char} (unbroken : ' ' ∉ cs) (rest : List Char) :
    aliasMark? (cs ++ rest) = (aliasMark? rest).map (· + cs.length) := by
  induction cs with
  | nil => simp
  | cons c cs ih =>
    rw [List.mem_cons, not_or] at unbroken
    have first : [' ', 'a', 's', ' '].isPrefixOf (c :: (cs ++ rest)) = false := by
      rw [List.isPrefixOf_cons_cons, beq_eq_false_iff_ne.2 unbroken.1, Bool.false_and]
    rw [List.cons_append, aliasMark?, first, ih unbroken.2, if_neg Bool.false_ne_true,
      Option.map_map]
    rfl

/-- A label is announced in the small form of a text where it is in the text, whatever the case of
the word. -/
theorem isNone_aliasMark? (before cs : List Char) :
    (aliasMark? (Text.lowerAfter before cs)).isNone =
      (aliasMark? (cs.map Char.toLower)).isNone := by
  induction cs generalizing before with
  | nil => rfl
  | cons c rest ih =>
    have marks : ∀ x ∈ [' ', 'a', 's', ' '], Text.IsMark x := by
      simp [Text.IsMark]
    have begins := Text.isPrefixOf_lowerAfter marks before (c :: rest)
    rcases Text.lowerAfter_cons before c rest with
      ⟨-, small⟩ | ⟨large, first, others, unmarked, small⟩
    · rw [List.map_cons] at begins ⊢
      rw [small] at begins ⊢
      rw [aliasMark?, aliasMark?, begins]
      split
      · rfl
      · rw [Option.isNone_map, Option.isNone_map, ih]
    · have unbroken : ' ' ∉ first :: others := fun mem => unmarked ' ' mem (.inl rfl)
      have blank : ' ' ∉ [c.toLower] := by
        rw [Text.toLower_of_le large, List.mem_singleton]
        rintro rfl
        exact absurd large (by decide)
      have behind := aliasMark?_append blank (rest.map Char.toLower)
      rw [List.singleton_append] at behind
      rw [small, aliasMark?_append unbroken, List.map_cons, behind, Option.isNone_map,
        Option.isNone_map, ih]

/-- Behind the place of a mark there is the mark. -/
theorem add_four_le_length {cs : List Char} {n : Nat} (marked : aliasMark? cs = some n) :
    n + 4 ≤ cs.length := by
  induction cs generalizing n with
  | nil => cases marked
  | cons c rest ih =>
    rw [aliasMark?] at marked
    split at marked
    · next begins =>
      cases marked
      exact (List.isPrefixOf_iff_prefix.1 begins).length_le
    · obtain ⟨m, later, rfl⟩ := Option.map_eq_some_iff.1 marked
      have behind := ih later
      rw [List.length_cons]
      omega

/-- In ASCII a position in bytes is one in characters. -/
theorem splitAtByte?_ascii {cs : List Char} (ascii : ∀ c ∈ cs, c.toNat < 128) {n : Nat}
    (bound : n ≤ cs.length) : splitAtByte? n cs = some (cs.take n, cs.drop n) := by
  induction cs generalizing n with
  | nil =>
    obtain rfl := Nat.le_zero.1 bound
    rfl
  | cons c rest ih =>
    rw [List.forall_mem_cons] at ascii
    cases n with
    | zero => rfl
    | succ n =>
      have size := Text.utf8Size_ascii ascii.1
      rw [splitAtByte?, size, if_neg (Nat.not_lt.2 (Nat.le_add_left 1 n)), Nat.add_sub_cancel,
        ih ascii.2 (Nat.le_of_succ_le_succ bound), Option.map_some, List.take_succ_cons,
        List.drop_succ_cons]

theorem ascii_of_isAscii {name : String} (ascii : isAscii name = true) :
    ∀ c ∈ name.toList, c.toNat < 128 := fun c mem =>
  of_decide_eq_true (List.all_eq_true.1 ascii c mem)

theorem aliasPosition?_eq (name : String) :
    aliasPosition? name = (aliasMark? (Text.lowerAfter [] name.toList)).map fun n =>
      Naming.byteLength ((Text.lowerAfter [] name.toList).take n) := by
  have small : (Text.lower name).toList = Text.lowerAfter [] name.toList := String.toList_ofList
  rw [← small]
  rfl

theorem aliasPosition?_ascii {name : String} (ascii : isAscii name = true) :
    aliasPosition? name = aliasMark? (name.toList.map Char.toLower) := by
  have plain := ascii_of_isAscii ascii
  rw [aliasPosition?_eq, Text.lowerAfter_ascii _ plain]
  cases marked : aliasMark? (name.toList.map Char.toLower) with
  | none => rfl
  | some n =>
    have bound := add_four_le_length marked
    have lowered : ∀ c ∈ (name.toList.map Char.toLower).take n, c.toNat < 128 := by
      intro c mem
      obtain ⟨own, here, rfl⟩ := List.mem_map.1 (List.mem_of_mem_take mem)
      exact Text.toNat_toLower_lt (plain own here)
    rw [Option.map_some, Text.byteLength_ascii lowered, List.length_take,
      Nat.min_eq_left (Nat.le_trans (Nat.le_add_right n 4) bound)]

/-- The column that an expression names: what stands before the word that announces a label, in
whatever case that is written, and the whole expression where there is none. -/
def sourceOf (name : String) : String :=
  match aliasMark? (name.toList.map Char.toLower) with
  | some n => String.ofList (Text.trimChars (name.toList.take n))
  | none => name

/-- The expression can be cut in front of the word that announces its label and behind it: at the
positions where the word has its bytes in the small form, characters of the expression begin. -/
def Divides (name : String) : Prop :=
  ∀ position ∈ aliasPosition? name,
    (splitAtByte? position name.toList).isSome ∧ (splitAtByte? (position + 4) name.toList).isSome

/-- The cuts of an expression agree with the column that it names and with each other. -/
structure Agrees (name : String) : Prop where
  divides : Divides name
  source : (splitAlias name).1 = sourceOf name
  label : (splitAlias name).2 = resultKey name

/-- Without a label the whole expression is the column. -/
theorem agrees_of_unlabelled {name : String}
    (unlabelled : aliasMark? (name.toList.map Char.toLower) = none) : Agrees name := by
  have unmarked : aliasPosition? name = none := by
    have small := isNone_aliasMark? [] name.toList
    rw [unlabelled, Option.isNone_none, Option.isNone_iff_eq_none] at small
    rw [aliasPosition?_eq, small, Option.map_none]
  have whole : splitAlias name = (name, unqualified name) := by
    unfold splitAlias
    rw [unmarked]
    rfl
  refine ⟨fun position mem => ?_, ?_, ?_⟩
  · rw [unmarked] at mem
    cases mem
  · rw [whole, sourceOf, unlabelled]
  · rw [whole, resultKey, unmarked]

/-- So it is in ASCII, where bytes are characters. -/
theorem agrees_of_ascii {name : String} (ascii : isAscii name = true) : Agrees name := by
  cases marked : aliasMark? (name.toList.map Char.toLower) with
  | none => exact agrees_of_unlabelled marked
  | some n =>
    have position : aliasPosition? name = some n := (aliasPosition?_ascii ascii).trans marked
    have bound := add_four_le_length marked
    rw [List.length_map] at bound
    have before := splitAtByte?_ascii (ascii_of_isAscii ascii) (Nat.le_of_add_right_le bound)
    have behind := splitAtByte?_ascii (ascii_of_isAscii ascii) bound
    have cut : splitAlias name =
        (String.ofList (Text.trimChars (name.toList.take n)),
          String.ofList (Text.trimChars (name.toList.drop (n + 4)))) := by
      unfold splitAlias
      simp only [position, Option.bind_some, before, behind, Option.map_some, Option.getD_some]
    refine ⟨fun other mem => ?_, ?_, ?_⟩
    · rw [position] at mem
      cases mem
      rw [before, behind]
      exact ⟨rfl, rfl⟩
    · rw [cut, sourceOf, marked]
    · rw [cut, resultKey, position]
      exact (if_pos ascii).symm

end ColumnName

namespace Query

/-- The query answers whole rows, one for each that it matches, and in an order that is its own. -/
structure Plain (q : Query) : Prop where
  columns : q.columns = none
  distinct : q.distinct = false
  groupBy : q.groupBy = []
  orderBy : .random ∉ q.orderBy

/-- The scopes of the rows that a plain query answers, in the order of the answer. -/
def answering (q : Query) (store : Store) : List Scope :=
  Select.window q.offset q.limit
    (Select.sortScopes q.orderBy (q.statement.selectedScopes store))

/-- Plucking a column expression does not fall between the bytes of a character, and answers the
value that the column has in each scope; the scopes are those of the rows that the query answers. -/
structure Plucks (q : Query) (name : String) (db : Database) (s : Session) (store : Store) :
    Prop where
  divided : q.statement.selectedScopes store ≠ [] → ColumnName.Divides name
  values : (q.pluck name db s).1 =
    .ok ((q.answering store).map (·.lookup (ColumnName.sourceOf name)))
  rows : q.Loadable db.registry → q.get.Answers db s fun found s' =>
    q.OfRows ((q.answering store).map (·.base)) found ∧ s'.engine = s.engine

end Query

namespace Select

theorem window_map {α β : Type} (f : α → β) (offset limit : Option Nat) (items : List α) :
    window offset limit (items.map f) = (window offset limit items).map f := by
  unfold window
  cases limit with
  | none => exact List.map_drop.symm
  | some n => rw [List.map_take, List.map_drop]

/-- A row with one column picked shows it under its label. -/
theorem value_project (name key : String) (groupBy : List String) (scope : Scope) :
    (project (.columns [name]) groupBy scope).value key =
      if key = (ColumnName.splitAlias name).2 then scope.lookup (ColumnName.splitAlias name).1
      else .null := by
  unfold Row.value
  rw [project, List.foldl_cons, List.foldl_nil]
  dsimp only
  rw [Row.get?_insert]
  split
  · rfl
  · rw [Row.get?_empty, Option.getD_none]

end Select

namespace Query

variable {q : Query} {db : Database} {s : Session} {store : Store} {name : String}

/-- A plain query answers one row for each of its scopes, whatever is shown of them. -/
theorem select_plain (plain : q.Plain) (store : Store) (projection : Projection)
    (listing : ∀ function column, projection ≠ .aggregate function column) :
    store.select { q.statement with projection } =
      (q.answering store).map (Select.project projection []) := by
  let asked : Select := { q.statement with projection }
  have listed : asked.Listing := listing
  rw [Store.select_eq_window listed, Store.select_uncut listed]
  change Select.window q.offset q.limit (if q.distinct = true then _ else
    (Select.sortScopes q.orderBy (q.statement.selectedScopes store)).map
      (Select.project projection q.groupBy)) = _
  rw [plain.distinct, if_neg Bool.false_ne_true, plain.groupBy, Select.window_map]
  rfl

theorem select_whole (plain : q.Plain) (store : Store) :
    store.select q.statement = (q.answering store).map (·.base) := by
  have whole : { q.statement with projection := .all } = q.statement := by
    unfold statement
    rw [plain.columns]
  have answered := select_plain plain store .all nofun
  rw [whole] at answered
  exact answered

/-- What is plucked: of each scope the value of the column that is read, if it is looked up under
the label that it got. -/
theorem pluck_plain (plain : q.Plain) (opened : s.engine.storeOf db.handle = .ok store) :
    (q.pluck name db s).1 = .ok ((q.answering store).map fun scope =>
      if ColumnName.resultKey name = (ColumnName.splitAlias name).2 then
        scope.lookup (ColumnName.splitAlias name).1 else .null) := by
  let asked : Select := { q.statement with projection := .columns [name] }
  have picked : store.select asked =
      (q.answering store).map (Select.project (.columns [name]) []) :=
    select_plain plain store _ nofun
  unfold pluck
  rw [Work.run_bind, Task.run_select, Engine.select_eq, opened]
  change Except.ok ((store.select asked).map (Row.value · (ColumnName.resultKey name))) = _
  simp only [picked, List.map_map, Function.comp_def, Select.value_project]

theorem plucks_of_agrees (agrees : ColumnName.Agrees name) (plain : q.Plain)
    (opened : s.engine.storeOf db.handle = .ok store) : q.Plucks name db s store := by
  refine ⟨fun _ => agrees.divides, ?_, fun loadable => ?_⟩
  · rw [pluck_plain plain opened, agrees.label, agrees.source]
    exact congrArg Except.ok (List.map_congr_left fun scope _ => if_pos rfl)
  · rw [← select_whole plain]
    exact answers_get loadable opened

/-- A table with one row of one column. -/
def oneValue (table column : String) : Store :=
  { tables := [(table, [Row.empty.insert column (.int 1)])] }

/-- All rows of a table. -/
def wholeTable (table : String) : Query :=
  { model := .bare "Row" table [] {} }

theorem plain_wholeTable (table : String) : (wholeTable table).Plain :=
  ⟨rfl, rfl, rfl, List.not_mem_nil⟩

theorem selectedScopes_oneValue (table column : String) :
    (wholeTable table).statement.selectedScopes (oneValue table column) =
      [.ofRow table (Row.empty.insert column (.int 1))] := by
  have rows : (oneValue table column).rows table = [Row.empty.insert column (.int 1)] :=
    congrArg (Option.getD · []) (if_pos rfl)
  rw [Select.selectedScopes_eq _ rfl]
  change ((oneValue table column).rows table).flatMap _ = _
  rw [rows]
  rfl

theorem answering_oneValue (table column : String) :
    (wholeTable table).answering (oneValue table column) =
      [.ofRow table (Row.empty.insert column (.int 1))] := by
  unfold answering
  rw [selectedScopes_oneValue]
  rfl

/-- The one value is in sight under the name of its column, and with the table in front of it. -/
theorem lookup_oneValue (table column other : String) :
    (Scope.ofRow table (Row.empty.insert column (.int 1))).lookup other =
      if other = column ∨ other = qualified table column then .int 1 else .null := by
  change ((((Row.empty.insert (qualified table column) (.int 1)).insert column
    (.int 1)).get? other).getD .null) = _
  rw [Row.get?_insert, Row.get?_insert, Row.get?_empty]
  by_cases own : other = column
  · rw [if_pos own, if_pos (.inl own), Option.getD_some]
  · by_cases full : other = qualified table column
    · rw [if_neg own, if_pos full, if_pos (.inr full), Option.getD_some]
    · rw [if_neg own, if_neg full, if_neg (not_or.2 ⟨own, full⟩), Option.getD_none]

theorem ne_qualified_self (table column : String) : table ≠ qualified table column := by
  intro same
  have lengths := congrArg String.length same
  rw [qualified, String.length_append, String.length_append] at lengths
  have point : ".".length = 1 := rfl
  omega

/-- If an expression is plucked rightly of all tables of one row, its cuts agree: where the table is
called what is read, the value is in sight under the name of its column alone, and it is lost under
another key than its label. -/
theorem agrees_of_plucks
    (plucks : ∀ table column, (wholeTable table).Plucks name { registry := {} }
      ((oneValue table column).session ⟨0⟩) (oneValue table column)) :
    ColumnName.Agrees name := by
  obtain ⟨source, label⟩ : (ColumnName.splitAlias name).1 = ColumnName.sourceOf name ∧
      ColumnName.resultKey name = (ColumnName.splitAlias name).2 := by
    generalize hread : (ColumnName.splitAlias name).1 = read
    generalize hsource : ColumnName.sourceOf name = source
    have opened : ((oneValue read source).session ⟨0⟩).engine.storeOf .shared =
        .ok (oneValue read source) := rfl
    have values := (plucks read source).values
    rw [pluck_plain (plain_wholeTable read) opened, answering_oneValue, hread, hsource,
      List.map_singleton, List.map_singleton] at values
    have own : (Scope.ofRow read (Row.empty.insert source (.int 1))).lookup source = .int 1 := by
      rw [lookup_oneValue, if_pos (.inl rfl)]
    have value := (List.singleton_inj.1 (Except.ok.inj values)).trans own
    split at value
    · next label =>
      rw [lookup_oneValue] at value
      split at value
      · next seen => exact ⟨seen.resolve_right (ne_qualified_self read source), label⟩
      · cases value
    · cases value
  refine ⟨(plucks "" "").divided ?_, source, label.symm⟩
  rw [selectedScopes_oneValue]
  exact List.cons_ne_nil _ _

/-- **Plucking returns the column** where its expression is cut alike everywhere. Of every store and
for every plain query it answers, without falling between the bytes of a character, the value that
the column of the expression has in the scope of each answered row, in their order, exactly for the
expressions whose cuts agree with the column that they name and with each other. These are all that
are ASCII, and all that give no label. -/
theorem plucks_iff (name : String) :
    ((∀ (q : Query) (db : Database) (s : Session) (store : Store), q.Plain →
        s.engine.storeOf db.handle = .ok store → q.Plucks name db s store) ↔
      ColumnName.Agrees name) ∧
    (ColumnName.isAscii name = true ∨
        ColumnName.aliasMark? (name.toList.map Char.toLower) = none →
      ColumnName.Agrees name) := by
  refine ⟨⟨fun plucks => ?_, fun agrees _ _ _ _ plain opened => ?_⟩, fun simple => ?_⟩
  · exact agrees_of_plucks fun table column => plucks _ _ _ _ (plain_wholeTable table) rfl
  · exact plucks_of_agrees agrees plain opened
  · exact simple.elim ColumnName.agrees_of_ascii ColumnName.agrees_of_unlabelled

/-- Posts of some sizes. -/
def sizedPosts : Store :=
  { tables := [("posts",
      [.ofFields [("größe", .int 5), ("title", .text "a")],
       .ofFields [("größe", .int 7), ("title", .text "b")]])] }

/-- The titles are plucked under a label, which is announced in capitals. -/
theorem plucks_titles :
    (wholeTable "posts").Plain ∧
      ((wholeTable "posts").pluck "posts.title AS t" { registry := {} }
        (sizedPosts.session ⟨0⟩)).1 = .ok [.text "a", .text "b"] := by
  have plain := plain_wholeTable "posts"
  have plucked := ((plucks_iff "posts.title AS t").1.2
    ((plucks_iff "posts.title AS t").2 (.inl (by decide)))
    (wholeTable "posts") { registry := {} } (sizedPosts.session ⟨0⟩) sizedPosts plain rfl).values
  exact ⟨plain, plucked.trans (congrArg Except.ok (by decide +kernel))⟩

/-- The sizes are lost under a label, since the name of their column is not ASCII. -/
theorem not_plucks_sizes :
    (wholeTable "posts").Plain ∧
      ((wholeTable "posts").pluck "größe as size" { registry := {} } (sizedPosts.session ⟨0⟩)).1 =
        .ok [.null, .null] ∧
      ((wholeTable "posts").answering sizedPosts).map
        (·.lookup (ColumnName.sourceOf "größe as size")) = [.int 5, .int 7] ∧
      ¬(wholeTable "posts").Plucks "größe as size" { registry := {} } (sizedPosts.session ⟨0⟩)
        sizedPosts := by
  have values : ((wholeTable "posts").answering sizedPosts).map
      (·.lookup (ColumnName.sourceOf "größe as size")) = [.int 5, .int 7] := by
    decide +kernel
  have plucked : ((wholeTable "posts").pluck "größe as size" { registry := {} }
      (sizedPosts.session ⟨0⟩)).1 = .ok [.null, .null] :=
    (pluck_plain (plain_wholeTable _) rfl).trans (congrArg Except.ok (by decide +kernel))
  refine ⟨plain_wholeTable _, plucked, values, fun plucks => ?_⟩
  have promised := plucks.values
  rw [plucked, values] at promised
  cases promised

end Query

end EntityStore
