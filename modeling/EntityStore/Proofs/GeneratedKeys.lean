import EntityStore.Proofs.Circulation
import EntityStore.Proofs.History

/-!
# Generated keys

In a run in which no row carries its key, the keys that are handed out for a table ascend strictly over
all handles, every commit of an open transaction succeeds, and each row that was inserted directly or
in a transaction that was committed is in the shared table once, unless a delete has selected it since.
Main result: `Engine.generatedKeys`.
-/

namespace EntityStore

/-- Where the keys of rows are distinct, a row is the only one with its key. -/
theorem filter_keyOf? {column : String} {rows : List Row} {row : Row} {key : Int}
    (distinct : (rows.filterMap (Store.keyOf? column)).Nodup) (member : row ∈ rows)
    (carried : Store.keyOf? column row = some key) :
    rows.filter (fun other => Store.keyOf? column other = some key) = [row] := by
  induction rows with
  | nil => cases member
  | cons first rest ih =>
    rcases List.mem_cons.1 member with rfl | member
    · rw [List.filterMap_cons_some carried, List.nodup_cons] at distinct
      rw [List.filter_cons_of_pos (by simpa using carried)]
      congr 1
      rw [List.filter_eq_nil_iff]
      intro other hother same
      exact distinct.1 (List.mem_filterMap.2 ⟨other, hother, of_decide_eq_true same⟩)
    · have restDistinct : (rest.filterMap (Store.keyOf? column)).Nodup :=
        distinct.sublist ((List.sublist_cons_self first rest).filterMap _)
      have inRest : key ∈ rest.filterMap (Store.keyOf? column) :=
        List.mem_filterMap.2 ⟨row, member, carried⟩
      have different : ¬ Store.keyOf? column first = some key := by
        intro same
        rw [List.filterMap_cons_some same, List.nodup_cons] at distinct
        exact distinct.1 inRest
      rw [List.filter_cons_of_neg (by simpa using different)]
      exact ih restDistinct member

/-- Writes that keep the key column keep the key of what they leave of a row. -/
theorem keyOf?_remains {table column : String} {history : List Applied} {row left : Row}
    (keeps : ∀ a ∈ history, a.write.KeepsKey table column)
    (h : remains table row history = some left) :
    Store.keyOf? column left = Store.keyOf? column row := by
  induction history generalizing row with
  | nil =>
    cases h
    rfl
  | cons a later ih =>
    rw [remains_cons] at h
    obtain ⟨next, hnext, remaining⟩ := Option.bind_eq_some_iff.1 h
    rw [ih (fun b hb => keeps b (List.mem_cons_of_mem _ hb)) remaining]
    have keepsFirst := keeps a List.mem_cons_self
    obtain ⟨met, w⟩ := a
    cases w with
    | insert statement =>
      cases hnext
      rfl
    | update statement =>
      simp only [Applied.leaves] at hnext
      split at hnext
      · next selected =>
        cases hnext
        exact Store.keyOf?_merge (keepsFirst selected.1)
      · cases hnext
        rfl
    | delete statement =>
      simp only [Applied.leaves] at hnext
      split at hnext
      · cases hnext
      · cases hnext
        rfl

namespace Engine

variable {columns : String → String} {engine : Engine}

/-- The keys that an action hands out for a table. -/
def handed (table : String) (engine : Engine) : Action → List Int
  | .run handle (.write (.insert statement)) =>
    if statement.table = table then
      match (engine.write handle (.insert statement)).1 with
      | .ok answer => answer.keys
      | .error _ => []
    else []
  | _ => []

/-- The keys that are handed out for a table in a run, on all handles. -/
def handedOut (table : String) (engine : Engine) : List Action → List Int
  | [] => []
  | action :: rest => engine.handed table action ++ handedOut table (engine.step action) rest

/-- An insertion that succeeds on any handle hands out the keys that are drawn from the shared
sequence. -/
theorem write_insert_answer {handle : Handle} {statement : Insert} {answer : Store.WriteAnswer}
    (h : (engine.write handle (.insert statement)).1 = .ok answer) :
    ∃ keyed last, Store.assignKeys statement.returning (engine.shared.sequence statement.table)
        statement.rows = .ok (keyed, last) ∧
      answer = .inserted (keyed.map (·.1)) ∧
      (engine.write handle (.insert statement)).2.shared.sequence statement.table = last := by
  cases handle with
  | shared =>
    cases ran : engine.shared.write (.insert statement) with
    | error e =>
      simp only [write, ran] at h
      cases h
    | ok result =>
      obtain ⟨_, changed⟩ := result
      simp only [write, ran] at h ⊢
      cases h
      obtain ⟨keyed, last, _, assigned, rfl, rfl⟩ := Store.write_insert ran
      exact ⟨keyed, last, assigned, rfl, Store.sequence_appended_self _ _ _ _⟩
  | transaction index =>
    obtain ⟨t, prepared, shared, working, _, drew, ran, moved, _⟩ := write_accepted h
    have carries := prepare_carries drew
    obtain ⟨keyed, last, assigned, rfl, rfl⟩ := prepare_insert drew
    obtain ⟨again, _, _, assignedAgain, rfl, _⟩ := Store.write_insert ran
    have keys := (Store.assignKeys_carried carries assignedAgain).2.1
    refine ⟨keyed, last, assigned, ?_, ?_⟩
    · rw [keys, Store.keys_assigned assigned]
    · rw [moved]
      exact Store.sequence_setSequence_self _ _ _

/-- Every row of an insertion that succeeds is given a key. -/
theorem keyed_of_answer {handle : Handle} {statement : Insert} {keys : List Int}
    (answered : (engine.write handle (.insert statement)).1 = .ok (.inserted keys)) :
    keys.length = statement.rows.length ∧ ∀ row ∈ statement.keyedRows keys,
      (Store.keyOf? statement.returning row).isSome = true := by
  obtain ⟨keyed, last, assigned, same, _⟩ := write_insert_answer answered
  cases same
  obtain ⟨rows, length⟩ := Store.assignKeys_keyedRows assigned
  rw [List.length_map]
  refine ⟨length, ?_⟩
  rw [← rows]
  intro row member
  obtain ⟨pair, hpair, rfl⟩ := List.mem_map.1 member
  rw [((Store.assignKeys_carries assigned).2 pair hpair).1]
  rfl

theorem handed_ascends (sound : engine.Sound columns) {action : Action}
    (draws : action.DrawsKeys columns) (table : String) :
    Ascends (engine.shared.sequence table) ((engine.step action).shared.sequence table)
      (engine.handed table action) := by
  have nothing : Ascends (engine.shared.sequence table)
      ((engine.step action).shared.sequence table) [] := by
    obtain ⟨_, ascends, _⟩ := (moves_step sound draws).circulates table
    exact .nil ascends.grows
  unfold handed
  split
  · next handle statement =>
    split
    · next own =>
      split
      · next answer answered =>
        subst own
        obtain ⟨keyed, last, assigned, rfl, reached⟩ := write_insert_answer answered
        change Ascends _ ((engine.write handle (.insert statement)).2.shared.sequence _) _
        rw [reached]
        exact Store.ascends_assigned draws.2 assigned
      · exact nothing
    · exact nothing
  · exact nothing

/-- The keys that are handed out ascend over the whole run. -/
theorem handedOut_ascends (sound : engine.Sound columns) {actions : List Action}
    (draws : ∀ action ∈ actions, action.DrawsKeys columns) (table : String) :
    Ascends (engine.shared.sequence table) ((engine.run actions).shared.sequence table)
      (engine.handedOut table actions) := by
  induction actions generalizing engine with
  | nil => exact .nil (Int.le_refl _)
  | cons action rest ih =>
    have first := draws action List.mem_cons_self
    exact (handed_ascends sound first table).append
      (ih (sound.moves (moves_step sound first)) fun a ha => draws a (List.mem_cons_of_mem _ ha))

/-- What changes the shared store in a sound run keeps the columns of keys. -/
theorem keeps_history (sound : engine.Sound columns) {actions : List Action}
    (draws : ∀ action ∈ actions, action.DrawsKeys columns) (table : String) :
    ∀ a ∈ engine.history actions, a.write.KeepsKey table (columns table) := by
  induction actions generalizing engine with
  | nil => exact fun _ h => nomatch h
  | cons action rest ih =>
    intro a member
    have first := draws action List.mem_cons_self
    rcases List.mem_append.1 member with member | member
    · rcases mem_applied member with ⟨w, rfl, rfl⟩ | ⟨index, t, rfl, opened, journaled⟩
      · exact Write.DrawsKeys.keeps first table
      · exact (sound.settled_active opened _ journaled).keeps table
    · exact ih (sound.moves (moves_step sound first))
        (fun b hb => draws b (List.mem_cons_of_mem _ hb)) a member

/-- What is inserted on a handle reaches the shared tables: at once, or because the transaction is
committed later. -/
def Lands (engine : Engine) (later : List Action) : Handle → Prop
  | .shared => True
  | .transaction index => ∃ first rest, later = first ++ .commit index :: rest ∧
      ((engine.run first).commit index).1 = .ok ()

/-- The rows that an insertion has given keys are inserted into the shared table when the insertion is
direct, or when its transaction is committed. -/
theorem inserted_of_lands {handle : Handle} {statement : Insert} {keys : List Int}
    {later : List Action}
    (answered : (engine.write handle (.insert statement)).1 = .ok (.inserted keys))
    (lands : Lands (engine.step (.run handle (.write (.insert statement)))) later handle) :
    ∃ earlier a rest,
      engine.history (.run handle (.write (.insert statement)) :: later) = earlier ++ a :: rest ∧
      a.inserted statement.table = statement.keyedRows keys := by
  obtain ⟨keyed, last, assigned, same, _⟩ := write_insert_answer answered
  cases same
  obtain ⟨rows, _⟩ := Store.assignKeys_keyedRows assigned
  cases handle with
  | shared =>
    cases ran : engine.shared.write (.insert statement) with
    | error e =>
      simp only [write, ran] at answered
      cases answered
    | ok result =>
      have one : engine.applied (.run .shared (.write (.insert statement))) =
          [⟨engine.shared, .insert statement⟩] := Store.passes_of_ok ran
      refine ⟨[], ⟨engine.shared, .insert statement⟩,
        (engine.step (.run .shared (.write (.insert statement)))).history later, ?_, ?_⟩
      · rw [history, one]
        rfl
      · rw [Applied.inserted_insert assigned, rows]
  | transaction index =>
    obtain ⟨first, rest, rfl, committed⟩ := lands
    obtain ⟨t, prepared, shared, working, _, drew, _, _, noted⟩ := write_accepted answered
    have carries := prepare_carries drew
    obtain ⟨keyedAgain, _, assignedAgain, rfl, _⟩ := prepare_insert drew
    have same : keyedAgain = keyed := by
      rw [assigned] at assignedAgain
      cases assignedAgain
      rfl
    subst same
    -- The journal holds the insertion with its keys fixed. The commit runs it on another store, where
    -- rows that carry keys are given the same ones.
    obtain ⟨ended, still, replayed, applied⟩ := commit_ok committed
    obtain ⟨more, grown⟩ := journal_run noted still
    rw [grown, List.append_assoc, List.singleton_append] at replayed applied
    obtain ⟨earlier, met, later, ⟨_, _⟩, passed, ran⟩ := Store.passes_of_replay replayed
    obtain ⟨brought, _, _, assignedThere, _, _⟩ := Store.write_insert ran
    let begun := engine.step (.run (.transaction index) (.write (.insert statement)))
    refine ⟨begun.history first ++ earlier,
      ⟨met, .insert { statement with rows := keyedAgain.map (·.2) }⟩,
      later ++ ((begun.run first).step (.commit index)).history rest, ?_, ?_⟩
    · have nothing : engine.applied (.run (.transaction index) (.write (.insert statement))) = [] :=
        rfl
      rw [history, nothing, List.nil_append, history_append, history, applied, passed]
      simp only [List.append_assoc, List.cons_append]
      rfl
    · have inserted := Applied.inserted_insert assignedThere
      exact inserted.trans ((Store.assignKeys_carried carries assignedThere).1.trans rows)

/-- What holds of the keys that are handed out in a run on a store that was empty at the beginning. -/
structure GeneratedKeys (columns : String → String) (actions : List Action) : Prop where
  /-- The keys that are handed out for a table ascend strictly, whatever handles they are handed out
  on. -/
  increasing : ∀ table, (handedOut table {} actions).Pairwise (· < ·)
  /-- Every commit of an open transaction succeeds. -/
  commits : ∀ before index after t, actions = before ++ .commit index :: after →
    (run {} before).active index = .ok t → ((run {} before).commit index).1 = .ok ()
  /-- An insertion that is direct, or whose transaction is committed, gives every row a key and is
  applied to the shared store; and each of its rows that no delete has selected since is in the shared
  table, as the only one with its key. -/
  present : ∀ before handle statement keys after,
    actions = before ++ .run handle (.write (.insert statement)) :: after →
    ((run {} before).write handle (.insert statement)).1 = .ok (.inserted keys) →
    Lands ((run {} before).step (.run handle (.write (.insert statement)))) after handle →
    keys.length = statement.rows.length ∧ ∃ earlier a later,
      history {} actions = earlier ++ a :: later ∧
      a.inserted statement.table = statement.keyedRows keys ∧
      ∀ row ∈ statement.keyedRows keys, ¬ Deleted statement.table row later →
        ∃ left, remains statement.table row later = some left ∧
          ((run {} actions).shared.rows statement.table).filter (fun other =>
            Store.keyOf? statement.returning other = Store.keyOf? statement.returning row) = [left]

/-- A row that is inserted in the history of a sound run is in the table once, unless a delete has
selected it. -/
theorem filter_remains {actions : List Action} (draws : ∀ action ∈ actions, action.DrawsKeys columns)
    {table : String} {earlier later : List Applied} {a : Applied}
    (story : history {} actions = earlier ++ a :: later) {row left : Row}
    (member : row ∈ a.inserted table) (keyed : (Store.keyOf? (columns table) row).isSome = true)
    (remaining : remains table row later = some left) :
    ((run {} actions).shared.rows table).filter (fun other =>
      Store.keyOf? (columns table) other = Store.keyOf? (columns table) row) = [left] := by
  have sound : (run {} actions).Sound columns := Sound.run .empty draws
  have distinct : ((run {} actions).shared.keys table (columns table)).Nodup :=
    (sound.distinct table).of_append_left
  have accounts : (run {} actions).shared.rows table = landed table (history {} actions) :=
    accounts_run {} actions table
  have there : left ∈ (run {} actions).shared.rows table := by
    rw [accounts, story]
    exact mem_landed member remaining
  have keeps : ∀ b ∈ later, b.write.KeepsKey table (columns table) := by
    intro b hb
    refine keeps_history .empty draws table b ?_
    rw [story]
    exact List.mem_append_right _ (List.mem_cons_of_mem _ hb)
  obtain ⟨key, hkey⟩ := Option.isSome_iff_exists.1 keyed
  have sameKey := keyOf?_remains keeps remaining
  rw [hkey] at sameKey ⊢
  exact filter_keyOf? distinct there sameKey

/-- **Generated keys.** Whatever handles and transactions are interleaved in a run on an empty store:
where all insertions into a table draw their keys in one column and no update sets it, the keys that
are handed out ascend, commits succeed, and inserted rows are neither lost nor doubled. -/
theorem generatedKeys (columns : String → String) (actions : List Action)
    (draws : ∀ action ∈ actions, action.DrawsKeys columns) : GeneratedKeys columns actions where
  increasing table := (handedOut_ascends .empty draws table).ascending
  commits := by
    rintro before index after t rfl opened
    have sound : (run {} before).Sound columns :=
      Sound.run .empty fun action h => draws action (List.mem_append_left _ h)
    obtain ⟨shared, committed, _⟩ := sound.commit opened
    rw [committed]
  present := by
    rintro before handle statement keys after rfl answered lands
    obtain ⟨length, keyed⟩ := keyed_of_answer answered
    obtain ⟨earlier, a, later, story, inserted⟩ := inserted_of_lands answered lands
    have whole : history {} (before ++ .run handle (.write (.insert statement)) :: after) =
        (history {} before ++ earlier) ++ a :: later := by
      rw [history_append, story, List.append_assoc]
    have own := draws (.run handle (.write (.insert statement)))
      (List.mem_append_right _ List.mem_cons_self)
    have column : statement.returning = columns statement.table := own.1
    refine ⟨length, history {} before ++ earlier, a, later, whole, inserted, ?_⟩
    intro row member spared
    obtain ⟨left, remaining⟩ := remains_of_not_deleted spared
    refine ⟨left, remaining, ?_⟩
    have carried := keyed row member
    rw [column] at carried ⊢
    exact filter_remains draws whole (inserted ▸ member) carried remaining

/-- Two transactions draw keys for posts between direct insertions. The first one is committed, and
the second one is rolled back. -/
def interleaved : List Action :=
  [.begin .shared, .begin .shared,
    .run .shared (.write (.insert { table := "posts", rows := [.empty] })),
    .run (.transaction 0) (.write (.insert { table := "posts", rows := [.empty, .empty] })),
    .run (.transaction 1) (.write (.insert { table := "posts", rows := [.empty] })),
    .rollback 1,
    .run .shared (.write (.delete { table := "logs" })),
    .run .shared (.write (.insert { table := "posts", rows := [.empty] })),
    .commit 0]

/-- The keys of the posts are handed out in order; the first transaction commits, and its first post is
there once. -/
theorem generatedKeys_interleaved :
    handedOut "posts" {} interleaved = [1, 2, 3, 4, 5] ∧
    (handedOut "posts" {} interleaved).Pairwise (· < ·) ∧
    ((run {} (interleaved.take 8)).commit 0).1 = .ok () ∧
    ∃ left, ((run {} interleaved).shared.rows "posts").filter (fun other =>
      Store.keyOf? "id" other = Store.keyOf? "id" (Row.empty.insert "id" (.int 2))) = [left] := by
  have draws : ∀ action ∈ interleaved, action.DrawsKeys fun _ => "id" := by
    simp [interleaved, Action.DrawsKeys, Write.DrawsKeys, Store.keyOf?]
  obtain ⟨increasing, commits, present⟩ := generatedKeys (fun _ => "id") interleaved draws
  have handed : handedOut "posts" {} interleaved = [1, 2, 3, 4, 5] := by rfl
  refine ⟨handed, increasing "posts", commits (interleaved.take 8) 0 [] _ rfl rfl, ?_⟩
  have committed : ((run {} (interleaved.take 8)).commit 0).1 = .ok () := by rfl
  obtain ⟨_, earlier, a, later, story, inserted, once⟩ :=
    present (interleaved.take 3) (.transaction 0) { table := "posts", rows := [.empty, .empty] } [2, 3]
      (interleaved.drop 4) rfl rfl ⟨(interleaved.drop 4).take 4, [], rfl, committed⟩
  have deletes : ((history {} interleaved).map (·.write)).all (fun w =>
      match w with
      | .delete statement => statement.table != "posts"
      | _ => true) = true := by rfl
  have spared : ¬ Deleted "posts" (Row.empty.insert "id" (.int 2)) later := by
    rintro ⟨first, met, statement, rest, left, rfl, own, _⟩
    have member : Write.delete statement ∈ (history {} interleaved).map (·.write) := by
      rw [story]
      simp
    have other := List.all_eq_true.1 deletes _ member
    simp [own] at other
  obtain ⟨left, _, only⟩ := once _ List.mem_cons_self spared
  exact ⟨left, only⟩

end Engine

end EntityStore
