import EntityStore.Proofs.InsertText
import EntityStore.Proofs.Insertions
import EntityStore.Proofs.Records

/-!
# The rows of rendered insertions

An insertion lists every column of its rows once (`Sql.nodup_columnsOf`, `Sql.mem_columnsOf`). So
long as some row carries a column, it is rendered with one tuple for each row, and its rows are read
back from it: main result `Sql.records_of_render`. When no row carries a column, it is rendered as
an insertion of default values, which is one of a single row, however many rows there are: main
result `Sql.length_rows_of_render`.
-/

namespace EntityStore.Sql

/-! ### The columns of rows -/

/-- A name is put behind the others unless it is among them. -/
def listed (done : List String) (key : String) : List String :=
  if done.contains key then done else done ++ [key]

theorem columnsOf_eq (rows : List Row) :
    columnsOf rows = (rows.flatMap Row.keys).foldl listed [] := by
  rw [List.foldl_flatMap]
  rfl

theorem mem_foldl_listed {name : String} (keys done : List String) :
    name ∈ keys.foldl listed done ↔ name ∈ done ∨ name ∈ keys := by
  induction keys generalizing done with
  | nil => simp
  | cons key keys ih =>
    have step : name ∈ listed done key ↔ name ∈ done ∨ name = key := by
      unfold listed
      split
      · next there =>
        have there := List.contains_iff_mem.1 there
        exact ⟨.inl, fun h => h.elim id fun same => same ▸ there⟩
      · rw [List.mem_append, List.mem_singleton]
    rw [List.foldl_cons, ih, step, List.mem_cons, or_assoc]

theorem mem_columnsOf {rows : List Row} {name : String} :
    name ∈ columnsOf rows ↔ ∃ row ∈ rows, name ∈ row.keys := by
  rw [columnsOf_eq, mem_foldl_listed, List.mem_flatMap]
  exact or_iff_right List.not_mem_nil

theorem nodup_columnsOf (rows : List Row) : (columnsOf rows).Nodup := by
  rw [columnsOf_eq]
  generalize rows.flatMap Row.keys = keys
  suffices kept : ∀ done : List String, done.Nodup → (keys.foldl listed done).Nodup from
    kept [] List.nodup_nil
  induction keys with
  | nil => exact fun _ apart => apart
  | cons key keys ih =>
    refine fun done apart => ih _ ?_
    unfold listed
    split
    · exact apart
    · next new =>
      rw [List.contains_iff_mem] at new
      exact List.nodup_append.2 ⟨apart, List.nodup_singleton _, fun a ha b hb same =>
        new ((same.trans (List.mem_singleton.1 hb)) ▸ ha)⟩

theorem columnsOf_eq_nil {rows : List Row} :
    columnsOf rows = [] ↔ ∀ row ∈ rows, row.isEmpty = true := by
  rw [List.eq_nil_iff_forall_not_mem]
  simp only [mem_columnsOf, not_exists, not_and]
  constructor
  · intro none row mem
    rw [Row.isEmpty, List.isEmpty_iff, ← List.map_eq_nil_iff (f := Prod.fst)]
    exact List.eq_nil_iff_forall_not_mem.2 fun name => none name row mem
  · intro empty name row mem there
    have none : row.keys = [] := List.map_eq_nil_iff.2 (List.isEmpty_iff.1 (empty row mem))
    rw [none] at there
    cases there

/-! ### As many rows as the statement has -/

section

variable {types : ColumnTypes} {statement : Insert} {r : Rendered}

theorem render_insert_eq_ok : render types (.write (.insert statement)) = .ok r ↔
    ∃ pieces, insertPieces types statement = .ok pieces ∧ assemble pieces = r := by
  rw [render, statementPieces]
  cases insertPieces types statement with
  | error e => exact ⟨nofun, nofun⟩
  | ok pieces =>
    constructor
    · rintro ⟨⟩
      exact ⟨pieces, rfl, rfl⟩
    · rintro ⟨_, ⟨⟩, rfl⟩
      rfl

/-- What is read from a rendered insertion. -/
theorem read_render (rendered : render types (.write (.insert statement)) = .ok r)
    (nonempty : statement.rows ≠ []) :
    ∃ names, quoteAll (columnsOf statement.rows) = .ok names ∧
      Insertion.read r = some
        (if columnsOf statement.rows = [] then ⟨[], [[]]⟩
        else ⟨names.map fun name => Insertion.columnName (wordsFrom [] name.toList),
          statement.rows.map fun row => (columnsOf statement.rows).map fun column =>
            (row.get? column).map .ofValue⟩) := by
  obtain ⟨pieces, made, rfl⟩ := render_insert_eq_ok.1 rendered
  exact read_insertPieces made nonempty

/-- **How many rows are inserted.** A rendered insertion says as many rows as its statement has,
which is how many the store in memory places and answers keys for, exactly if there is only one of
them or one that carries a column. The names are not looked at, whether or not a table has them. -/
theorem length_rows_of_render (rendered : render types (.write (.insert statement)) = .ok r)
    (nonempty : statement.rows ≠ []) :
    ∃ insertion, Insertion.read r = some insertion ∧
      (insertion.rows.length = statement.rows.length ↔
        statement.rows.length = 1 ∨ ∃ row ∈ statement.rows, row.isEmpty = false) ∧
      ∀ (store changed : Store) (answer : Store.WriteAnswer),
        store.write (.insert statement) = .ok (answer, changed) →
          ∃ new keys, answer = .inserted keys ∧
            changed.rows statement.table = store.rows statement.table ++ new ∧
            new.length = statement.rows.length ∧ keys.length = statement.rows.length := by
  obtain ⟨names, -, read⟩ := read_render rendered nonempty
  refine ⟨_, read, ?_, fun store changed answer wrote => ?_⟩
  · by_cases bare : columnsOf statement.rows = []
    · have empty := columnsOf_eq_nil.1 bare
      have none : ¬∃ row ∈ statement.rows, row.isEmpty = false := by
        rintro ⟨row, mem, carries⟩
        rw [empty row mem] at carries
        cases carries
      rw [if_pos bare, or_iff_left none]
      exact eq_comm
    · have carries : ∃ row ∈ statement.rows, row.isEmpty = false := by
        rw [columnsOf_eq_nil] at bare
        push Not at bare
        simpa only [ne_eq, Bool.not_eq_true] using bare
      rw [if_neg bare]
      exact iff_of_true (List.length_map _) (.inr carries)
  · obtain ⟨keyed, last, -, assigned, answered, appended⟩ := Store.write_insert wrote
    have placed := (Insert.Places.of_assigned assigned).length
    refine ⟨keyed.map (·.2), keyed.map (·.1), answered, ?_, ?_, ?_⟩
    · rw [appended]
      exact store.rows_appended_self _ _ _
    · rw [List.length_map, placed]
    · rw [List.length_map, placed]

end

/-- Rows of different columns, one of them a reserved word, and a row without any. -/
def sparsePosts : Insert where
  table := "posts"
  rows :=
    [.ofFields [("order", .int 3), ("views", .null)], .empty, .ofFields [("title", .text "x")]]

theorem length_rows_of_render_sparse :
    ∃ r insertion, render {} (.write (.insert sparsePosts)) = .ok r ∧
      Insertion.read r = some insertion ∧ insertion.rows.length = 3 := by
  obtain ⟨r, rendered⟩ : ∃ r, render {} (.write (.insert sparsePosts)) = .ok r := ⟨_, rfl⟩
  obtain ⟨insertion, read, whole, -⟩ := length_rows_of_render rendered (by decide)
  exact ⟨r, insertion, rendered, read, whole.2 (.inr (by decide +kernel))⟩

/-- Two rows without columns are placed in the store in memory, but the insertion that they are
rendered as is one of a single row. -/
theorem not_length_rows_of_render :
    ∃ r changed, render {} (.write (.insert ⟨"posts", [.empty, .empty], "id"⟩)) = .ok r ∧
      Insertion.read r = some ⟨[], [[]]⟩ ∧
      ({} : Store).write (.insert ⟨"posts", [.empty, .empty], "id"⟩) =
        .ok (.inserted [1, 2], changed) := by
  refine ⟨_, _, rfl, ?_, rfl⟩
  decide +kernel

/-! ### Plain identifiers -/

/-- A letter, a digit or the underscore. -/
def isPlainChar (c : Char) : Bool :=
  c.isAlphanum || c == '_'

/-- An identifier of letters, digits and underscores that does not begin with a digit. -/
structure Plain (name : String) : Prop where
  nonempty : name.toList ≠ []
  chars : ∀ c ∈ name.toList, isPlainChar c = true
  head : Undigited name.toList

instance (name : String) : Decidable (Plain name) :=
  decidable_of_iff
    (name.toList ≠ [] ∧ name.toList.all isPlainChar = true ∧ Undigited name.toList)
    ⟨fun h => ⟨h.1, List.all_eq_true.1 h.2.1, h.2.2⟩,
      fun h => ⟨h.nonempty, List.all_eq_true.2 h.chars, h.head⟩⟩

theorem lt_of_isPlainChar {c : Char} (plain : isPlainChar c = true) : c.toNat < 128 := by
  simp only [isPlainChar, Char.isAlphanum, Char.isAlpha, Char.isUpper, Char.isLower, Char.isDigit,
    Bool.or_eq_true, Bool.and_eq_true, decide_eq_true_eq, beq_iff_eq, UInt32.le_iff_toNat_le,
    ge_iff_le] at plain
  rcases plain with ((⟨-, h⟩ | ⟨-, h⟩) | ⟨-, h⟩) | rfl
  · exact Nat.lt_of_le_of_lt h (by decide)
  · exact Nat.lt_of_le_of_lt h (by decide)
  · exact Nat.lt_of_le_of_lt h (by decide)
  · decide

/-- A plain character is no blank, no point and no quote, and its small letter is no blank. -/
theorem of_isPlainChar {c : Char} (plain : isPlainChar c = true) :
    Text.isBlank c = false ∧ c.toLower ≠ ' ' ∧ c ≠ '.' ∧ c ≠ '"' := by
  have all : ∀ n < 128, isPlainChar (Char.ofNat n) = true → Text.isBlank (Char.ofNat n) = false ∧
      (Char.ofNat n).toLower ≠ ' ' ∧ Char.ofNat n ≠ '.' ∧ Char.ofNat n ≠ '"' := by
    decide +kernel
  have own := all c.toNat (lt_of_isPlainChar plain)
  rw [Char.ofNat_toNat] at own
  exact own plain

theorem aliasMark?_unbroken {cs : List Char} (unbroken : ' ' ∉ cs) :
    ColumnName.aliasMark? cs = none := by
  induction cs with
  | nil => rfl
  | cons c cs ih =>
    rw [List.mem_cons, not_or] at unbroken
    have first : [' ', 'a', 's', ' '].isPrefixOf (c :: cs) = false := by
      rw [List.isPrefixOf_cons_cons, beq_eq_false_iff_ne.2 unbroken.1, Bool.false_and]
    rw [ColumnName.aliasMark?, first, ih unbroken.2]
    rfl

theorem trimChars_unblank {cs : List Char} (unblank : ∀ c ∈ cs, Text.isBlank c = false) :
    Text.trimChars cs = cs := by
  have kept : ∀ {l : List Char}, (∀ c ∈ l, Text.isBlank c = false) →
      l.dropWhile Text.isBlank = l := by
    intro l h
    cases l with
    | nil => rfl
    | cons c l => exact List.dropWhile_cons_of_neg (by rw [h c List.mem_cons_self]; decide)
  rw [Text.trimChars, kept unblank, kept fun c mem => unblank c (List.mem_reverse.1 mem),
    List.reverse_reverse]

theorem segmentsOf_undotted {cs : List Char} (undotted : '.' ∉ cs) : segmentsOf cs = [cs] :=
  List.splitOnP_eq_singleton fun _ mem => beq_eq_false_iff_ne.2 fun same => undotted (same ▸ mem)

theorem unquoted_quoted (cs : List Char) :
    Insertion.unquoted (String.ofList ('"' :: cs ++ ['"'])) = String.ofList cs := by
  unfold Insertion.unquoted
  rw [String.toList_ofList, List.cons_append]
  exact congrArg String.ofList List.dropLast_concat

theorem unquoted_of_plain {word : String} (plain : '"' ∉ word.toList) :
    Insertion.unquoted word = word := by
  unfold Insertion.unquoted
  split
  · next opened => exact absurd (opened ▸ List.mem_cons_self) plain
  · rfl

namespace Plain

variable {name : String} (plain : Plain name)
include plain

theorem isPlainSegment : isPlainSegment name.toList = true := by
  have head : (name.toList.head?.map Char.isDigit).getD false = false := by
    cases first : name.toList.head? with
    | none => rfl
    | some c => exact plain.head c first
  have chars : name.toList.all (fun c => c.isAlphanum || c == '_') = true :=
    List.all_eq_true.2 plain.chars
  rw [Sql.isPlainSegment, chars, head, List.isEmpty_eq_false_iff.2 plain.nonempty]
  exact Bool.or_true _

theorem splitAs : splitAs name.toList = (name.toList, none) := by
  have unbroken : ' ' ∉ name.toList.map Char.toLower := by
    intro mem
    obtain ⟨c, there, blank⟩ := List.mem_map.1 mem
    exact (of_isPlainChar (plain.chars c there)).2.1 blank
  rw [Sql.splitAs, aliasMark?_unbroken unbroken]

theorem trimChars : Text.trimChars name.toList = name.toList :=
  trimChars_unblank fun c mem => (of_isPlainChar (plain.chars c mem)).1

theorem segmentsOf : segmentsOf name.toList = [name.toList] :=
  segmentsOf_undotted fun mem => (of_isPlainChar (plain.chars _ mem)).2.2.1 rfl

theorem isValidIdentifier : isValidIdentifier name = true := by
  have ascii : ColumnName.isAscii name = true :=
    List.all_eq_true.2 fun c mem => decide_eq_true (lt_of_isPlainChar (plain.chars c mem))
  rw [Sql.isValidIdentifier, plain.splitAs]
  simp only [ascii, isPlainName, plain.trimChars, plain.segmentsOf, List.all_cons, List.all_nil,
    plain.isPlainSegment, Option.map_none, Option.getD_none, Bool.and_true]
  rw [List.isEmpty_eq_false_iff.2 plain.nonempty]
  rfl

/-- A plain identifier is quoted where it is a reserved word. -/
theorem quoteIdentifier :
    quoteIdentifier name = .ok (String.ofList (quoteSegment name.toList)) := by
  rw [Sql.quoteIdentifier, validateIdentifier, if_pos plain.isValidIdentifier, plain.splitAs]
  simp only [Except.map, plain.trimChars, plain.segmentsOf]
  rw [List.map_singleton, List.intercalate_singleton]

/-- What is written for a plain identifier is read as the identifier. -/
theorem columnName_quoted :
    Insertion.columnName (wordsFrom [] (quoteSegment name.toList)) = name := by
  have solid : Solid (quoteSegment name.toList) :=
    (Solid.of_segment plain.isPlainSegment).quoteSegment
  have unquoted : Insertion.unquoted (String.ofList (quoteSegment name.toList)) = name := by
    unfold quoteSegment
    by_cases reserved : reservedWords.contains (String.ofList (name.toList.map Char.toLower)) = true
    · rw [if_pos reserved, unquoted_quoted, String.ofList_toList]
    · rw [if_neg reserved, String.ofList_toList]
      exact unquoted_of_plain fun mem => (of_isPlainChar (plain.chars _ mem)).2.2.2 rfl
  rw [wordsFrom_last solid, Insertion.columnName, List.map_singleton, String.intercalate_singleton,
    unquoted]

end Plain

/-! ### The rows themselves -/

/-- An entry sets a field, unless it is left to the default. -/
def setEntry (fields : List (String × Parameter)) (entry : String × Option Parameter) :
    List (String × Parameter) :=
  match entry.2 with
  | some parameter => setField entry.1 parameter fields
  | none => fields

/-- The rows that an insertion says, by the names of the columns. -/
def Insertion.records (insertion : Insertion) : List (List (String × Parameter)) :=
  insertion.rows.map fun entries => (insertion.columns.zip entries).foldl setEntry []

theorem ascending_foldl_setEntry (entries : List (String × Option Parameter))
    {fields : List (String × Parameter)} (ascending : Ascending fields) :
    Ascending (entries.foldl setEntry fields) := by
  induction entries generalizing fields with
  | nil => exact ascending
  | cons entry entries ih =>
    refine ih ?_
    unfold setEntry
    split
    · exact ascending.setField _ _
    · exact ascending

/-- A record shows the entries of its columns, and behind them what it has shown before. -/
theorem fieldOf?_foldl_setEntry (entry : String → Option Parameter) (name : String)
    (columns : List String) (fields : List (String × Parameter)) :
    fieldOf? name ((columns.zip (columns.map entry)).foldl setEntry fields) =
      (if name ∈ columns then entry name else none).or (fieldOf? name fields) := by
  induction columns generalizing fields with
  | nil => rfl
  | cons column columns ih =>
    have step : fieldOf? name (setEntry fields (column, entry column)) =
        (if name = column then entry name else none).or (fieldOf? name fields) := by
      unfold setEntry
      by_cases same : name = column
      · subst same
        rw [if_pos rfl]
        cases entry name with
        | none => rfl
        | some parameter => exact fieldOf?_setField_self _ _ _
      · rw [if_neg same, Option.none_or]
        cases entry column with
        | none => rfl
        | some parameter => exact fieldOf?_setField_of_ne _ _ same
    rw [List.map_cons, List.zip_cons_cons, List.foldl_cons, ih, step]
    by_cases same : name = column
    · subst same
      rw [if_pos rfl, if_pos List.mem_cons_self]
      split
      · cases entry name <;> rfl
      · rfl
    · rw [if_neg same, Option.none_or]
      simp only [List.mem_cons, same, false_or]

/-- A row makes up the record of its values again, when its columns are among the listed ones. -/
theorem record_of_row {row : Row} {columns : List String}
    (carried : ∀ name ∈ row.keys, name ∈ columns) :
    (columns.zip (columns.map fun column => (row.get? column).map .ofValue)).foldl setEntry [] =
      row.fields.map fun field => (field.1, Parameter.ofValue field.2) := by
  have ascending : Ascending (row.fields.map fun field => (field.1, Parameter.ofValue field.2)) :=
    List.pairwise_map.2 row.ascending
  refine (ascending_foldl_setEntry _ .nil).ext ascending fun name => ?_
  rw [fieldOf?_foldl_setEntry, fieldOf?_map, fieldOf?, Option.or_none]
  split
  · rfl
  · next unlisted =>
    rw [fieldOf?_eq_none fun mem => unlisted (carried name mem)]
    rfl

theorem exists_quoteIdentifier {name : String} :
    (∃ text, quoteIdentifier name = .ok text) ↔ isValidIdentifier name = true := by
  rw [quoteIdentifier, validateIdentifier]
  by_cases valid : isValidIdentifier name = true
  · rw [if_pos valid]
    exact iff_of_true ⟨_, rfl⟩ valid
  · rw [if_neg valid]
    exact iff_of_false (fun ⟨_, quoted⟩ => nomatch quoted) valid

theorem exists_quoteAll {names : List String} :
    (∃ texts, quoteAll names = .ok texts) ↔ ∀ name ∈ names, isValidIdentifier name = true := by
  constructor
  · rintro ⟨texts, quoted⟩ name mem
    obtain ⟨text, -, quoted⟩ := Except.ok_of_mapM quoted mem
    exact exists_quoteIdentifier.1 ⟨text, quoted⟩
  · intro valid
    induction names with
    | nil => exact ⟨[], rfl⟩
    | cons name names ih =>
      obtain ⟨first, others⟩ := List.forall_mem_cons.1 valid
      obtain ⟨text, quoted⟩ := exists_quoteIdentifier.2 first
      obtain ⟨texts, quotedAll⟩ := ih others
      refine ⟨text :: texts, ?_⟩
      unfold quoteAll at quotedAll ⊢
      rw [List.mapM_cons, quoted, quotedAll]
      rfl

/-- An insertion is rendered exactly if all of its names are valid. -/
theorem exists_render_insert {types : ColumnTypes} {statement : Insert} :
    (∃ r, render types (.write (.insert statement)) = .ok r) ↔
      isValidIdentifier statement.table = true ∧ isValidIdentifier statement.returning = true ∧
        ∀ name ∈ columnsOf statement.rows, isValidIdentifier name = true := by
  rw [← exists_quoteIdentifier, ← exists_quoteIdentifier, ← exists_quoteAll]
  constructor
  · rintro ⟨r, rendered⟩
    obtain ⟨pieces, made, -⟩ := render_insert_eq_ok.1 rendered
    unfold insertPieces at made
    obtain ⟨table, namedTable, made⟩ := Except.bind_eq_ok.1 made
    obtain ⟨returning, namedReturning, made⟩ := Except.bind_eq_ok.1 made
    obtain ⟨names, named, -⟩ := Except.bind_eq_ok.1 made
    exact ⟨⟨table, namedTable⟩, ⟨returning, namedReturning⟩, names, named⟩
  · rintro ⟨⟨table, namedTable⟩, ⟨returning, namedReturning⟩, names, named⟩
    have made : ∃ pieces, insertPieces types statement = .ok pieces := by
      unfold insertPieces
      dsimp only
      rw [namedTable, namedReturning, named]
      by_cases bare : (columnsOf statement.rows).isEmpty = true
      · exact ⟨_, if_pos bare⟩
      · exact ⟨_, if_neg bare⟩
    obtain ⟨pieces, made⟩ := made
    exact ⟨_, render_insert_eq_ok.2 ⟨pieces, made, rfl⟩⟩

theorem quoteAll_plain {names : List String} (plain : ∀ name ∈ names, Plain name) :
    quoteAll names = .ok (names.map fun name => String.ofList (quoteSegment name.toList)) := by
  unfold quoteAll
  induction names with
  | nil => rfl
  | cons name names ih =>
    obtain ⟨first, others⟩ := List.forall_mem_cons.1 plain
    rw [List.mapM_cons, first.quoteIdentifier, ih others]
    rfl

/-- **What is read back.** An insertion whose rows carry plain identifiers is rendered if its table
and the column of its keys are valid. From the text and the parameters alone its rows are read back:
the columns that they carry, each once, and row by row the parameters of their values. -/
theorem records_of_render {types : ColumnTypes} {statement : Insert}
    (plain : ∀ row ∈ statement.rows, ∀ name ∈ row.keys, Plain name)
    (carries : ∃ row ∈ statement.rows, row.isEmpty = false) :
    ((∃ r, render types (.write (.insert statement)) = .ok r) ↔
      isValidIdentifier statement.table = true ∧ isValidIdentifier statement.returning = true) ∧
    ∀ r, render types (.write (.insert statement)) = .ok r →
      ∃ insertion, Insertion.read r = some insertion ∧ insertion.columns.Nodup ∧
        (∀ name, name ∈ insertion.columns ↔ ∃ row ∈ statement.rows, name ∈ row.keys) ∧
        insertion.records = statement.rows.map fun row =>
          row.fields.map fun field => (field.1, Parameter.ofValue field.2) := by
  have plainColumns : ∀ name ∈ columnsOf statement.rows, Plain name := by
    intro name mem
    obtain ⟨row, there, carried⟩ := mem_columnsOf.1 mem
    exact plain row there name carried
  constructor
  · rw [exists_render_insert, ← and_assoc]
    exact and_iff_left fun name mem => (plainColumns name mem).isValidIdentifier
  · intro r rendered
    obtain ⟨row, mem, carried⟩ := carries
    have bare : columnsOf statement.rows ≠ [] := by
      intro bare
      rw [columnsOf_eq_nil.1 bare row mem] at carried
      cases carried
    obtain ⟨names, named, read⟩ := read_render rendered (List.ne_nil_of_mem mem)
    rw [quoteAll_plain plainColumns] at named
    cases named
    have columns : (columnsOf statement.rows).map (fun name => Insertion.columnName
        (wordsFrom [] (String.ofList (quoteSegment name.toList)).toList)) =
          columnsOf statement.rows := by
      refine (List.map_congr_left fun name mem => ?_).trans (List.map_id _)
      rw [String.toList_ofList]
      exact (plainColumns name mem).columnName_quoted
    rw [if_neg bare, List.map_map, Function.comp_def, columns] at read
    refine ⟨_, read, nodup_columnsOf _, fun name => mem_columnsOf, ?_⟩
    rw [Insertion.records, List.map_map]
    refine List.map_congr_left fun row mem => ?_
    have carried : ∀ name ∈ row.keys, name ∈ columnsOf statement.rows :=
      fun name carried => mem_columnsOf.2 ⟨row, mem, carried⟩
    exact record_of_row carried

theorem records_of_render_sparse :
    ∃ r insertion, render {} (.write (.insert sparsePosts)) = .ok r ∧
      Insertion.read r = some insertion ∧
      insertion.records = [[("order", .int 3), ("views", .null)], [], [("title", .text "x")]] := by
  have plain : ∀ row ∈ sparsePosts.rows, ∀ name ∈ row.keys, Plain name := by decide +kernel
  obtain ⟨accepted, read⟩ := records_of_render plain (by decide +kernel)
  obtain ⟨r, rendered⟩ := accepted.2 (by decide +kernel)
  obtain ⟨insertion, read, -, -, same⟩ := read r rendered
  exact ⟨r, insertion, rendered, read, same.trans (by decide +kernel)⟩

end EntityStore.Sql
