import EntityStore.Proofs.Calls
import EntityStore.Proofs.Records
import EntityStore.Proofs.Terminals

/-!
# Likes are a set

The likes of an entity stand in a table with a column for the owner, whose name the entity may
choose. As long as that column is told apart from the others (`Likes.ApartColumns`), a call on the
likes of one owner adds or removes at most one row, and the table follows the calls: main result
`Likes.areSet`. The column of an entity that is called `users` is `user_id` unless another is
chosen, and then nothing is liked at all (`Likes.not_areSet_users`).
-/

namespace EntityStore

namespace Scope

/-- Fields under other names leave a name in sight as it is. -/
theorem get?_withFields_of_free {table name : String} {fields : List (String × Value)}
    (free : ∀ field ∈ fields, name ≠ field.1 ∧ name ≠ qualified table field.1) (sight : Row) :
    (fields.foldl (fun (sight : Row) field =>
      (sight.insert (qualified table field.1) field.2).insert field.1 field.2) sight).get? name =
        sight.get? name := by
  induction fields generalizing sight with
  | nil => rfl
  | cons field rest ih =>
    obtain ⟨plain, other⟩ := free field List.mem_cons_self
    rw [List.foldl_cons, ih fun field mem => free field (List.mem_cons_of_mem _ mem),
      Row.get?_insert_of_ne _ _ plain, Row.get?_insert_of_ne _ _ other]

/-- A column shows its own value, unless a later column of the row takes its name as a qualified
one. -/
theorem lookup_ofRow_of_unhidden {table name : String} {row : Row} {v : Value}
    (found : row.get? name = some v)
    (unhidden : ∀ column ∈ row.keys, name < column → name ≠ qualified table column) :
    (ofRow table row).lookup name = v := by
  obtain ⟨fields, ascending⟩ := row
  unfold ofRow lookup withRow
  simp only [Row.get?, Row.keys] at found unhidden ⊢
  generalize Row.empty = sight
  -- The column is reached on the way through the fields; the fields behind it have greater names.
  induction fields generalizing sight with
  | nil => cases found
  | cons field rest ih =>
    obtain ⟨above, tail⟩ := List.pairwise_cons.1 ascending
    rw [List.foldl_cons]
    by_cases own : field.1 = name
    · subst own
      rw [fieldOf?, if_pos rfl] at found
      cases found
      have free : ∀ other ∈ rest, field.1 ≠ other.1 ∧ field.1 ≠ qualified table other.1 := by
        intro other mem
        have greater : field.1 < other.1 := above other mem
        exact ⟨fun same => String.lt_irrefl _ (same ▸ greater),
          unhidden other.1 (List.mem_map_of_mem (List.mem_cons_of_mem _ mem)) greater⟩
      have kept := get?_withFields_of_free free
        ((sight.insert (qualified table field.1) field.2).insert field.1 field.2)
      rw [Row.get?_insert_self] at kept
      exact congrArg (Option.getD · .null) kept
    · rw [fieldOf?, if_neg own] at found
      exact ih tail found (fun column mem => unhidden column (List.mem_cons_of_mem _ mem)) _

end Scope

namespace Reader

/-- Entries that no field has may be left out. -/
theorem setFields_filter {α : Type} {fields : List (Field α)} {keep : String → Bool}
    (unknown : ∀ name, keep name = false → fields.find? (·.names.contains name) = none)
    {seen : List (List String)} {a : α} (entries : List (String × Document)) :
    (setFields Reader.ofData fields seen a
        (entries.map fun entry => (.name entry.1, entry.2)) : Except DecodeError _) =
      setFields Reader.ofData fields seen a
        ((entries.filter fun entry => keep entry.1).map fun entry => (.name entry.1, entry.2)) := by
  induction entries generalizing seen a with
  | nil => rfl
  | cons entry rest ih =>
    rw [List.map_cons, List.filter_cons]
    cases kept : keep entry.1 with
    | false => rw [setFields_unknown (unknown _ kept), ih, if_neg (by simp)]
    | true =>
      rw [if_pos rfl, List.map_cons, setFields, setFields]
      simp only [ih]

end Reader

theorem Document.ofFields_filter (keep : String → Bool) (fields : List (String × Value)) :
    ofFields (fields.filter fun field => keep field.1) =
      (ofFields fields).filter fun entry => keep entry.1 := by
  induction fields with
  | nil => rfl
  | cons field rest ih =>
    obtain ⟨name, v⟩ := field
    rw [List.filter_cons, ofFields, List.filter_cons]
    simp only
    cases keep name with
    | false => exact ih
    | true => exact congrArg (_ :: ·) ih

/-- Columns that a record has no field for do not matter when it is read. -/
theorem Row.decode_filter {α : Type} {type : String} {fields : List (Reader.Field α)} {defaults : α}
    {keep : String → Bool}
    (unknown : ∀ name, keep name = false → fields.find? (·.names.contains name) = none)
    (row : Row) :
    row.decode (Reader.readRecord type fields defaults) =
      (row.filter fun name _ => keep name).decode (Reader.readRecord type fields defaults) := by
  have read (r : Row) : Reader.readRecord type fields defaults (.ofValue r.toValue) =
      Reader.readNamed Reader.ofData fields defaults
        ((Document.ofFields r.fields).map fun entry => (.name entry.1, entry.2)) := rfl
  unfold Row.decode
  rw [read, read]
  unfold Reader.readNamed
  rw [Reader.setFields_filter unknown, ← Document.ofFields_filter]
  rfl

/-! ### Rows of likes -/

/-- A like as it is stored. -/
structure StoredLike where
  id : Int
  user : Int
  ownerId : Int
  stamp : String
deriving DecidableEq, Repr

namespace StoredLike

/-- What is read of a like. -/
def like (l : StoredLike) : Like := ⟨l.id, l.user, some l.stamp⟩

/-- The row that holds a like; the column of the owner has the given name. -/
def toRow (key : String) (l : StoredLike) : Row :=
  ((((Row.empty.insert "updated_at" (.text l.stamp)).insert key (.int l.ownerId)).insert "user_id"
    (.int l.user)).insert "created_at" (.text l.stamp)).insert "id" (.int l.id)

/-- The likes of one entity. -/
def records (table key : String) : Table StoredLike where
  name := table
  row := toRow key
  id := StoredLike.id
  keyed _ := Row.get?_insert_self _ _ _

end StoredLike

namespace Likes

/-- The column of the owner is told apart from the others: it is none of those that are set for
every like, and no column behind it takes its name as a qualified one. -/
structure ApartColumns (table key : String) : Prop where
  free : key ∉ ["created_at", "id", "user_id"]
  shown : ∀ column ∈ ["created_at", "id", "updated_at", "user_id"], key < column →
    key ≠ qualified table column

instance (table key : String) : Decidable (ApartColumns table key) :=
  decidable_of_iff (key ∉ ["created_at", "id", "user_id"] ∧
      ∀ column ∈ ["created_at", "id", "updated_at", "user_id"], key < column →
        key ≠ qualified table column)
    ⟨fun h => ⟨h.1, h.2⟩, fun h => ⟨h.free, h.shown⟩⟩

variable {table key : String}

namespace ApartColumns

theorem ne (apart : ApartColumns table key) :
    key ≠ "created_at" ∧ key ≠ "id" ∧ key ≠ "user_id" := by
  have := apart.free
  simp only [List.mem_cons, List.not_mem_nil, or_false, not_or] at this
  exact this

/-- The new row of a like, with its stamps and its key. -/
theorem stamped (apart : ApartColumns table key) (ownerId user id : Int) (stamp : String) :
    ((Row.ofFields [(key, .int ownerId), ("user_id", .int user)]).stamped stamp).insert "id"
        (.int id) = StoredLike.toRow key ⟨id, user, ownerId, stamp⟩ := by
  obtain ⟨created, own, other⟩ := apart.ne
  apply Row.ext_get?
  intro name
  simp only [Row.get?_insert, Row.get?_stamped, StoredLike.toRow, Row.ofFields, List.foldl,
    Row.get?_empty]
  split_ifs <;> simp_all

theorem keyless (apart : ApartColumns table key) (ownerId user : Int) (stamp : String) :
    ((Row.ofFields [(key, .int ownerId), ("user_id", .int user)]).stamped stamp).get?
      "id" = none := by
  obtain ⟨-, own, -⟩ := apart.ne
  simp [Row.get?_insert, Row.get?_stamped, Row.ofFields, own.symm]

theorem get?_key (apart : ApartColumns table key) (l : StoredLike) :
    (l.toRow key).get? key = some (.int l.ownerId) := by
  obtain ⟨created, own, other⟩ := apart.ne
  simp [StoredLike.toRow, Row.get?_insert, created, own, other]

theorem lookup_key (apart : ApartColumns table key) (l : StoredLike) :
    (Scope.ofRow table (l.toRow key)).lookup key = .int l.ownerId := by
  refine Scope.lookup_ofRow_of_unhidden (apart.get?_key l) ?_
  intro column mem greater
  have carried := Row.contains_of_mem_keys mem
  refine apart.shown column ?_ greater
  have different : column ≠ key := fun same => String.lt_irrefl key (same ▸ greater)
  by_contra other
  simp only [List.mem_cons, List.not_mem_nil, or_false, not_or] at other
  simp [Row.contains, StoredLike.toRow, Row.get?_insert, other, different] at carried

theorem value_user (l : StoredLike) : (l.toRow key).value "user_id" = .int l.user := by
  refine Row.value_eq ?_
  simp [StoredLike.toRow, Row.get?_insert]

theorem decode {l : StoredLike} (id : fitsInt64 l.id = true)
    (user : fitsInt64 l.user = true) : (l.toRow key).decode Like.read = .ok l.like := by
  have unknown (name : String) (other : ["created_at", "id", "user_id"].contains name = false) :
      [Reader.Field.required "id" Reader.int64 fun l n => { l with id := n },
        .required "user_id" Reader.int64 fun l n => { l with user := n },
        .optional "created_at" Reader.text fun l s => { l with createdAt := s }].find?
          (fun field : Reader.Field Like => field.names.contains name) = none := by
    simp only [List.contains_eq_mem, List.mem_cons, List.not_mem_nil, or_false,
      decide_eq_false_iff_not, not_or] at other
    simp [Reader.Field.required, Reader.Field.optional, other]
  have visible : ((l.toRow key).filter
        fun name _ => ["created_at", "id", "user_id"].contains name) =
      { fields := [("created_at", .text l.stamp), ("id", .int l.id), ("user_id", .int l.user)]
        ascending := .of_names ["created_at", "id", "user_id"] rfl (by decide) } := by
    refine Row.ext_of_fields ?_ ?_
    · intro name absent
      simp only [Row.keys, List.map_cons, List.map_nil, List.mem_cons, List.not_mem_nil,
        or_false, not_or] at absent
      rw [Row.get?_filter]
      simp [absent]
    · simp [Row.get?_filter, StoredLike.toRow, Row.get?_insert]
  refine (Row.decode_filter unknown _).trans ?_
  rw [visible]
  exact Row.decode_ok <| Reader.readNamed_ok
    ((Reader.setFields_known rfl rfl (Reader.optional_text (some l.stamp))).trans <|
      (Reader.setFields_known rfl rfl (Reader.int64_number id)).trans <|
      (Reader.setFields_known rfl rfl (Reader.int64_number user)).trans rfl) rfl

/-- The condition on an owner selects the likes of that owner. -/
theorem decides_owner (apart : ApartColumns table key) {ownerId : Int}
    (small : Binary64.IsSmall ownerId) (items : List StoredLike) :
    (StoredLike.records table key).Decides (Likes.mk table key ownerId).selection.conditions items
      fun l => l.ownerId == ownerId := by
  refine Table.decides_all rfl ?_
  intro store l _
  change (store.satisfies (.ofRow table (l.toRow key))
      (.compare key .eq (.int ownerId)) && true) = _
  rw [Bool.and_true, Store.satisfies, apart.lookup_key, Operator.holds_eq,
    Value.looseEq_small small]

/-- The conditions on an owner and a user select the likes of the two. -/
theorem decides_user (apart : ApartColumns table key) {ownerId user : Int}
    (small : Binary64.IsSmall ownerId) (smallUser : Binary64.IsSmall user)
    (items : List StoredLike) :
    (StoredLike.records table key).Decides
      ((Likes.mk table key ownerId).selection.conditions.also (userIs user)) items
      fun l => l.ownerId == ownerId && l.user == user := by
  intro store l mem
  have compared : store.satisfies (.ofRow table (l.toRow key)) (userIs user) =
        (l.user == user) := by
    rw [userIs, store.satisfies_compare _ _ (by decide), value_user, Value.looseEq_small smallUser]
  have owned : store.satisfiesTree (.ofRow table (l.toRow key))
      (Likes.mk table key ownerId).selection.conditions = (l.ownerId == ownerId) :=
    apart.decides_owner small items store l mem
  change _ = (l.ownerId == ownerId && (l.user == user))
  rw [← compared, ← owned]
  exact Store.satisfiesTree_also store _ rfl (userIs user)

end ApartColumns

/-! ### Calls on the likes of one owner -/

section Operations

variable {db : Database} {s : Session} {items : List StoredLike} {last ownerId user : Int}

/-- The likes of the owner are read in the order of the rows. -/
theorem all_answers (apart : ApartColumns table key) (small : Binary64.IsSmall ownerId)
    (users : ∀ l ∈ items, fitsInt64 l.user = true)
    (holds : (StoredLike.records table key).Holds s.engine db.handle items last) :
    (Likes.all ⟨table, key, ownerId⟩).Answers db s fun answer s' =>
      answer = (items.filter fun l => l.ownerId == ownerId).map StoredLike.like ∧
        s'.engine = s.engine :=
  (StoredLike.records table key).fetch holds (apart.decides_owner small items) fun l mem =>
    ApartColumns.decode (holds.id_fits mem) (users l mem)

theorem count_answers (apart : ApartColumns table key) (small : Binary64.IsSmall ownerId)
    (holds : (StoredLike.records table key).Holds s.engine db.handle items last) :
    (Likes.count ⟨table, key, ownerId⟩).Answers db s fun answer s' =>
      answer = ((items.filter fun l => l.ownerId == ownerId).length : Int) ∧ s'.engine = s.engine :=
  (StoredLike.records table key).countOf holds (apart.decides_owner small items)

theorem contains_answers (apart : ApartColumns table key) (small : Binary64.IsSmall ownerId)
    (smallUser : Binary64.IsSmall user)
    (holds : (StoredLike.records table key).Holds s.engine db.handle items last) :
    (Likes.contains ⟨table, key, ownerId⟩ user).Answers db s fun answer s' =>
      answer = (items.any fun l => l.ownerId == ownerId && l.user == user) ∧
        s'.engine = s.engine := by
  refine Task.Answers.bind ((StoredLike.records table key).selectFirst holds
    (apart.decides_user small smallUser items)) ?_
  rintro row s' ⟨rfl, same⟩
  refine Task.Answers.pure ⟨?_, same⟩
  rw [Option.isSome_map, Bool.eq_iff_iff, List.find?_isSome, List.any_eq_true]

/-- A like is added under the next key unless there is one. -/
theorem add_answers (apart : ApartColumns table key) (small : Binary64.IsSmall ownerId)
    (smallUser : Binary64.IsSmall user) (room : last + 1 ≤ maxInt64)
    (holds : (StoredLike.records table key).Holds s.engine db.handle items last) :
    (Likes.add ⟨table, key, ownerId⟩ user).Answers db s fun _ s' =>
      if items.any fun l => l.ownerId == ownerId && l.user == user then
        (StoredLike.records table key).Holds s'.engine db.handle items last
      else ∃ stamp, (StoredLike.records table key).Holds s'.engine db.handle
        (items ++ [⟨last + 1, user, ownerId, stamp⟩]) (last + 1) := by
  refine Task.Answers.bind (contains_answers apart small smallUser holds) ?_
  rintro liked s' ⟨rfl, same⟩
  cases items.any fun l => l.ownerId == ownerId && l.user == user with
  | true => exact Task.Answers.pure (holds.congr same)
  | false =>
    refine Task.Answers.bind ((StoredLike.records table key).insertStamped (holds.congr same)
      (apart.keyless ownerId user _) room (apart.stamped ownerId user (last + 1) _)) ?_
    rintro row s'' ⟨after, -⟩
    exact Task.Answers.pure ⟨_, after⟩

/-- The like of a user is removed, which answers whether there was one. -/
theorem remove_answers (apart : ApartColumns table key) (small : Binary64.IsSmall ownerId)
    (smallUser : Binary64.IsSmall user)
    (holds : (StoredLike.records table key).Holds s.engine db.handle items last) :
    (Likes.remove ⟨table, key, ownerId⟩ user).Answers db s fun answer s' =>
      answer = (items.any fun l => l.ownerId == ownerId && l.user == user) ∧
        (StoredLike.records table key).Holds s'.engine db.handle
          (items.filter fun l => !(l.ownerId == ownerId && l.user == user)) last := by
  refine Task.Answers.bind ((StoredLike.records table key).delete holds
    (apart.decides_user small smallUser items)) ?_
  rintro removed s' ⟨rfl, after⟩
  refine Task.Answers.pure ⟨?_, after⟩
  rw [Bool.eq_iff_iff, decide_eq_true_eq, List.countP_pos_iff, List.any_eq_true]

end Operations

/-! ### What the table tells of the calls -/

inductive Act where
  | like
  | unlike
deriving DecidableEq, Repr

/-- A call on the likes of an instance. -/
structure Call where
  owner : Instance
  user : Int
  act : Act

namespace Call

/-- The likes that the call is about, if its instance can be liked. -/
def target? (call : Call) : Option Likes :=
  (Likes.ofInstance call.owner).toOption

def perform (call : Call) : Task Unit := do
  let likes ← Work.ofExcept (Likes.ofInstance call.owner)
  match call.act with
  | .like => likes.add call.user
  | .unlike => do
    let _ ← likes.remove call.user
    return ()

/-- The call is about a user and an owner. -/
def concerns (likes : Likes) (user : Int) (call : Call) : Bool :=
  call.target? == some likes && call.user == user

def sets (call : Call) : Bool :=
  call.act == .like

end Call

/-- The last of the calls about the owner and the user was a like. -/
def Liked (likes : Likes) (user : Int) (calls : List Call) : Bool :=
  Stands (Call.concerns likes user) Call.sets calls

/-- The first like of the user that still stands on the owner. -/
def LikedSince (likes : Likes) (user : Int) (calls : List Call) (place : Nat) : Prop :=
  StandsSince (Call.concerns likes user) Call.sets calls place

/-- The likes of a table tell what the calls have come to: each of them stands on a call, they are
in the order of these calls, and none is missing. -/
structure Tally (table key : String) (calls : List Call) (items : List StoredLike) : Prop where
  users : ∀ l ∈ items, Binary64.IsSmall l.user
  distinct : (items.map fun l => (l.ownerId, l.user)).Nodup
  standing : ∀ ownerId user, (items.any fun l => l.ownerId == ownerId && l.user == user) =
    Liked ⟨table, key, ownerId⟩ user calls
  since : ∃ place : StoredLike → Nat,
    (∀ l ∈ items, LikedSince ⟨table, key, l.ownerId⟩ l.user calls (place l)) ∧
      items.Pairwise fun l l' => place l < place l'

namespace Tally

variable {calls : List Call} {items : List StoredLike} {call : Call} {ownerId : Int}

theorem nil : Tally table key [] [] where
  users _ mem := nomatch mem
  distinct := List.nodup_nil
  standing _ _ := rfl
  since := ⟨fun _ => 0, fun _ mem => (nomatch mem), List.Pairwise.nil⟩

/-- A call that takes nothing away and adds nothing that is not there leaves the table right. -/
theorem keep (tally : Tally table key calls items)
    (keeps : ∀ ownerId user, call.concerns ⟨table, key, ownerId⟩ user = true →
      call.sets = true ∧ Liked ⟨table, key, ownerId⟩ user calls = true) :
    Tally table key (calls ++ [call]) items where
  users := tally.users
  distinct := tally.distinct
  standing ownerId user := by
    rw [tally.standing, Liked, Liked, stands_append]
    split
    · next about =>
      obtain ⟨sets, liked⟩ := keeps ownerId user about
      rw [sets]
      exact liked
    · rfl
  since := by
    obtain ⟨place, since, ascend⟩ := tally.since
    refine ⟨place, fun l mem => ?_, ascend⟩
    exact (since l mem).append fun about => (keeps l.ownerId l.user about).1

theorem concerns_iff (target : call.target? = some ⟨table, key, ownerId⟩) (ownerId' user : Int) :
    call.concerns ⟨table, key, ownerId'⟩ user = true ↔ ownerId' = ownerId ∧ user = call.user := by
  rw [Call.concerns, target, Bool.and_eq_true, beq_iff_eq, beq_iff_eq, Option.some.injEq,
    Likes.mk.injEq]
  exact ⟨fun h => ⟨h.1.2.2.symm, h.2.symm⟩, fun h => ⟨⟨rfl, rfl, h.1.symm⟩, h.2.symm⟩⟩

/-- A like that is new stands since its call. -/
theorem add (tally : Tally table key calls items)
    (target : call.target? = some ⟨table, key, ownerId⟩)
    (likes : call.act = .like) (small : Binary64.IsSmall call.user)
    (new : (items.any fun l => l.ownerId == ownerId && l.user == call.user) = false) (id : Int)
    (stamp : String) :
    Tally table key (calls ++ [call]) (items ++ [⟨id, call.user, ownerId, stamp⟩]) := by
  have sets : call.sets = true := by rw [Call.sets, likes]; rfl
  have absent : ∀ l ∈ items, ¬(l.ownerId = ownerId ∧ l.user = call.user) := by
    intro l mem same
    have := List.any_eq_false.1 new l mem
    simp [same] at this
  have fallen : Stands (Call.concerns ⟨table, key, ownerId⟩ call.user) Call.sets calls = false :=
    (tally.standing ownerId call.user).symm.trans new
  refine ⟨?_, ?_, ?_, ?_⟩
  · intro l mem
    rcases List.mem_append.1 mem with mem | mem
    · exact tally.users l mem
    · rw [List.mem_singleton.1 mem]
      exact small
  · refine List.nodup_map_concat tally.distinct fun l mem same => ?_
    rw [Prod.mk.injEq] at same
    exact absent l mem same
  · intro ownerId' user
    rw [List.any_append, tally.standing, Liked, Liked, stands_append]
    by_cases about : call.concerns ⟨table, key, ownerId'⟩ user = true
    · obtain ⟨rfl, rfl⟩ := (concerns_iff target ownerId' user).1 about
      rw [if_pos about, sets]
      simp
    · rw [if_neg about]
      have different := mt (concerns_iff target ownerId' user).2 about
      simp only [List.any_cons, List.any_nil, Bool.or_false]
      have none : (ownerId == ownerId' && call.user == user) = false := by
        rw [Bool.eq_false_iff, ne_eq, Bool.and_eq_true, beq_iff_eq, beq_iff_eq]
        exact fun h => different ⟨h.1.symm, h.2.symm⟩
      rw [none, Bool.or_false]
  · refine StandsSince.concat (fun l : StoredLike => Call.concerns ⟨table, key, l.ownerId⟩ l.user)
      tally.since ?_ fallen ((concerns_iff target _ _).2 ⟨rfl, rfl⟩) sets
    exact fun mem => absent _ mem ⟨rfl, rfl⟩

/-- What is taken away falls, and the rest stands as before. -/
theorem remove (tally : Tally table key calls items)
    (target : call.target? = some ⟨table, key, ownerId⟩) (unlikes : call.act = .unlike) :
    Tally table key (calls ++ [call])
      (items.filter fun l => !(l.ownerId == ownerId && l.user == call.user)) := by
  have clears : call.sets = false := by rw [Call.sets, unlikes]; rfl
  have sub : (items.filter fun l => !(l.ownerId == ownerId && l.user == call.user)).Sublist items :=
    List.filter_sublist
  refine ⟨fun l mem => tally.users l (sub.subset mem), tally.distinct.sublist (sub.map _), ?_, ?_⟩
  · intro ownerId' user
    rw [Liked, stands_append, List.any_filter]
    by_cases about : call.concerns ⟨table, key, ownerId'⟩ user = true
    · obtain ⟨rfl, rfl⟩ := (concerns_iff target ownerId' user).1 about
      rw [if_pos about, clears]
      simp only [Bool.not_and_self]
      exact List.any_eq_false.2 fun _ _ => Bool.false_ne_true
    · rw [if_neg about]
      refine Eq.trans ?_ (tally.standing ownerId' user)
      refine any_congr_of_mem fun l _ => ?_
      have different := mt (concerns_iff target ownerId' user).2 about
      rw [Bool.eq_iff_iff]
      simp only [Bool.and_eq_true, Bool.not_eq_true', Bool.and_eq_false_imp, beq_iff_eq,
        beq_eq_false_iff_ne, ne_eq, and_iff_right_iff_imp]
      rintro ⟨rfl, rfl⟩ same user
      exact different ⟨same, user⟩
  · obtain ⟨place, since, ascend⟩ := tally.since
    refine ⟨place, fun l mem => ?_, ascend.sublist sub⟩
    refine (since l (sub.subset mem)).append fun about => ?_
    obtain ⟨own, user⟩ := (concerns_iff target _ _).1 about
    have kept := (List.mem_filter.1 mem).2
    simp [own, user] at kept

end Tally

/-! ### Runs -/

/-- The table of the likes of an entity. -/
def tableOf (m : Model) : String :=
  (m.traits.likeable.options {}).table.getD (m.table ++ "_likes")

/-- The column in which the likes of an entity name their owner. -/
def keyOf (m : Model) : String :=
  (m.traits.likeable.options {}).foreignKey.getD (Naming.foreignKeyForTable m.table)

/-- The likes of a saved instance of a likeable entity. -/
theorem ofInstance_ok {i : Instance} {id : Int}
    (likeable : i.model.traits.likeable.isEnabled = true)
    (saved : i.id? = some id) :
    Likes.ofInstance i = .ok ⟨tableOf i.model, keyOf i.model, id⟩ := by
  unfold Likes.ofInstance Model.requireTrait Instance.requireId
  simp only [likeable, saved, if_true]
  rfl

theorem eq_of_ofInstance {i : Instance} {likes : Likes} (h : Likes.ofInstance i = .ok likes) :
    ∃ id, likes = ⟨tableOf i.model, keyOf i.model, id⟩ := by
  unfold Likes.ofInstance Model.requireTrait at h
  cases enabled : i.model.traits.likeable.isEnabled with
  | false =>
    simp only [enabled, Bool.false_eq_true, if_false] at h
    cases h
  | true =>
    cases saved : i.requireId with
    | error e =>
      simp only [enabled, saved, if_true] at h
      cases h
    | ok id =>
      simp only [enabled, saved, if_true] at h
      cases h
      exact ⟨id, rfl⟩

theorem table_of_ofInstance {i : Instance} {likes : Likes} (h : Likes.ofInstance i = .ok likes) :
    likes.table = tableOf i.model := by
  obtain ⟨id, rfl⟩ := eq_of_ofInstance h
  rfl

/-- A call on the likes of some entity, seen from one entity: an instance of that entity is saved,
and its key and the user have no more than 53 bits; the other entities keep their likes elsewhere.
-/
structure Call.Proper (m : Model) (call : Call) : Prop where
  own : call.owner.model = m →
    (∃ id, call.owner.id? = some id ∧ Binary64.IsSmall id) ∧ Binary64.IsSmall call.user
  foreign : call.owner.model ≠ m → tableOf call.owner.model ≠ tableOf m

theorem Call.perform_ok {call : Call} {likes : Likes}
    (found : Likes.ofInstance call.owner = .ok likes) :
    call.perform = match call.act with
      | .like => likes.add call.user
      | .unlike => do
        let _ ← likes.remove call.user
        return () := by
  unfold Call.perform
  rw [found, Work.ok_bind]

theorem target?_of_ofInstance {call : Call} {likes : Likes}
    (found : Likes.ofInstance call.owner = .ok likes) : call.target? = some likes := by
  rw [Call.target?, found]
  rfl

/-- A call on likes that are kept elsewhere does not change a table. -/
theorem Call.spares {call : Call} {db : Database} {table : String}
    (elsewhere : table ≠ tableOf call.owner.model) : call.perform.Spares db table := by
  cases found : Likes.ofInstance call.owner with
  | error e =>
    unfold Call.perform
    rw [found]
    exact Task.Spares.still fun _ => rfl
  | ok likes =>
    have other : table ≠ likes.table := by rwa [table_of_ofInstance found]
    rw [Call.perform_ok found]
    cases call.act with
    | like =>
      refine Task.Spares.bind (Task.Spares.bind (Task.Spares.selectFirst _) fun _ =>
        Task.Spares.pure _) fun liked => ?_
      cases liked with
      | true => exact Task.Spares.pure _
      | false =>
        exact Task.Spares.bind (Task.Spares.insertStamped other _) fun _ => Task.Spares.pure _
    | unlike =>
      exact Task.Spares.bind (Task.Spares.bind (Task.Spares.delete other) fun _ =>
        Task.Spares.pure _) fun _ => Task.Spares.pure ()

variable {m : Model} {db : Database} {calls : List Call} {s : Session} {items : List StoredLike}
  {last : Int}

/-- What one more call makes of the likes of an entity: they tally with the calls, and those of
owners that the call is not about are as they were. -/
structure Stepped (m : Model) (db : Database) (calls : List Call) (call : Call) (s : Session)
    (items : List StoredLike) (last : Int) (items' : List StoredLike) (last' : Int) : Prop where
  bound : last' ≤ last + 1
  holds : (StoredLike.records (tableOf m) (keyOf m)).Holds (call.perform db s).2.engine db.handle
    items' last'
  tally : Tally (tableOf m) (keyOf m) (calls ++ [call]) items'
  others : ∀ ownerId, call.target? ≠ some ⟨tableOf m, keyOf m, ownerId⟩ →
    (items'.filter fun l => l.ownerId == ownerId) = items.filter fun l => l.ownerId == ownerId

section

variable {call : Call}
  (holds : (StoredLike.records (tableOf m) (keyOf m)).Holds s.engine db.handle items last)
  (tally : Tally (tableOf m) (keyOf m) calls items)
include holds tally

/-- A call on another entity is about likes that are kept elsewhere. -/
theorem step_foreign (foreign : tableOf call.owner.model ≠ tableOf m) :
    Stepped m db calls call s items last items last := by
  have elsewhere : ∀ ownerId, call.target? ≠ some ⟨tableOf m, keyOf m, ownerId⟩ := by
    intro ownerId target
    unfold Call.target? at target
    cases found : Likes.ofInstance call.owner with
    | error e =>
      rw [found] at target
      cases target
    | ok likes =>
      rw [found] at target
      cases target
      exact foreign (table_of_ofInstance found).symm
  have spared := Call.spares foreign.symm s _ _ holds.shown
  refine ⟨by omega, { holds with shown := spared }, tally.keep ?_, fun _ _ => rfl⟩
  intro ownerId user about
  rw [Call.concerns, Bool.and_eq_true, beq_iff_eq] at about
  exact absurd about.1 (elsewhere ownerId)

variable (apart : ApartColumns (tableOf m) (keyOf m)) {id : Int} (small : Binary64.IsSmall id)
  (smallUser : Binary64.IsSmall call.user)
  (found : Likes.ofInstance call.owner = .ok ⟨tableOf m, keyOf m, id⟩)
include apart small smallUser found

/-- A like is added unless there is one. -/
theorem step_like (act : call.act = .like) (room : last + 1 ≤ maxInt64) :
    ∃ items' last', Stepped m db calls call s items last items' last' := by
  have target := target?_of_ofInstance found
  have performed : call.perform = Likes.add ⟨tableOf m, keyOf m, id⟩ call.user := by
    rw [Call.perform_ok found, act]
  obtain ⟨_, -, after⟩ := (add_answers apart small smallUser room holds).outcome
  cases liked : items.any fun l => l.ownerId == id && l.user == call.user with
  | true =>
    rw [liked, if_pos rfl] at after
    refine ⟨items, last, by omega, by rw [performed]; exact after, tally.keep ?_, fun _ _ => rfl⟩
    intro ownerId user about
    obtain ⟨rfl, rfl⟩ := (Tally.concerns_iff target ownerId user).1 about
    exact ⟨by rw [Call.sets, act]; rfl, by rw [← tally.standing, liked]⟩
  | false =>
    rw [liked, if_neg (by simp)] at after
    obtain ⟨stamp, after⟩ := after
    refine ⟨_, _, Int.le_refl _, by rw [performed]; exact after,
      tally.add target act smallUser liked _ _, ?_⟩
    intro ownerId other
    have different : id ≠ ownerId := fun same => other (same ▸ target)
    rw [List.filter_append, List.filter_cons_of_neg (by simp [different]), List.filter_nil,
      List.append_nil]

/-- A like is taken away if there is one. -/
theorem step_unlike (act : call.act = .unlike) :
    ∃ items' last', Stepped m db calls call s items last items' last' := by
  have target := target?_of_ofInstance found
  have performed : call.perform = (do
      let _ ← Likes.remove ⟨tableOf m, keyOf m, id⟩ call.user
      return ()) := by
    rw [Call.perform_ok found, act]
  have removed := remove_answers apart small smallUser holds
  obtain ⟨_, -, after⟩ := (removed.mono fun _ _ h => h.2).ignoring.outcome
  refine ⟨_, last, by omega, by rw [performed]; exact after, tally.remove target act, ?_⟩
  intro ownerId other
  have different : id ≠ ownerId := fun same => other (same ▸ target)
  rw [List.filter_filter]
  refine List.filter_congr fun l _ => ?_
  by_cases same : l.ownerId = ownerId
  · simp [same, different.symm]
  · simp [same]

end

/-- What one call does to the table of the likes of an entity. -/
theorem step (likeable : m.traits.likeable.isEnabled = true)
    (apart : ApartColumns (tableOf m) (keyOf m)) {call : Call} (proper : call.Proper m)
    (holds : (StoredLike.records (tableOf m) (keyOf m)).Holds s.engine db.handle items last)
    (tally : Tally (tableOf m) (keyOf m) calls items) (room : last + 1 ≤ maxInt64) :
    ∃ items' last', Stepped m db calls call s items last items' last' := by
  by_cases own : call.owner.model = m
  · obtain ⟨⟨id, saved, small⟩, smallUser⟩ := proper.own own
    subst own
    have found := ofInstance_ok likeable saved
    cases act : call.act with
    | like => exact step_like holds tally apart small smallUser found act room
    | unlike => exact step_unlike holds tally apart small smallUser found act
  · exact ⟨items, last, step_foreign holds tally (proper.foreign own)⟩

/-- What a run of calls leaves in the table of the likes of an entity. -/
theorem run (likeable : m.traits.likeable.isEnabled = true)
    (apart : ApartColumns (tableOf m) (keyOf m)) (proper : ∀ call ∈ calls, call.Proper m)
    (empty : s.engine.Shows db.handle (tableOf m) [] last) (counted : 0 ≤ last)
    (room : last + calls.length ≤ maxInt64) :
    ∃ items last', last' ≤ last + calls.length ∧
      (StoredLike.records (tableOf m) (keyOf m)).Holds
        (Task.inTurn Call.perform db calls s).engine db.handle items last' ∧
      Tally (tableOf m) (keyOf m) calls items := by
  induction calls using List.reverseRecOn with
  | nil =>
    have fits : last ≤ maxInt64 := by simpa using room
    exact ⟨[], last, by simp, .empty empty counted fits, .nil⟩
  | append_singleton before call ih =>
    rw [List.length_append, List.length_singleton] at room ⊢
    obtain ⟨items, reached, bound, holds, tally⟩ :=
      ih (fun call mem => proper call (List.mem_append_left _ mem)) (by omega)
    obtain ⟨items', last', bound', holds', tally', -⟩ :=
      step likeable apart (proper call (by simp)) holds tally (by omega)
    refine ⟨items', last', by omega, ?_, tally'⟩
    rw [Task.inTurn_append]
    exact holds'

/-- What is told of the likes of one owner after the calls. -/
structure Told (likes : Likes) (m : Model) (db : Database) (calls : List Call) (s : Session) :
    Prop where
  /-- A user likes the owner when the last call about the two was a like. -/
  contains : ∀ user, Binary64.IsSmall user →
    (likes.contains user db s).1 = .ok (Liked likes user calls)
  /-- The likes are those of these users, in the order of the likes that still stand. -/
  listed : ∃ found, (likes.all db s).1 = .ok found ∧
    (likes.count db s).1 = .ok (found.length : Int) ∧
    (∀ user, user ∈ found.map Like.user ↔ Liked likes user calls = true) ∧
    ∃ place : Like → Nat, (∀ l ∈ found, LikedSince likes l.user calls (place l)) ∧
      found.Pairwise fun l l' => place l < place l'
  /-- Taking a like away answers whether there was one, and removes it and nothing else. -/
  removes : ∀ user, Binary64.IsSmall user → ∃ before after last,
    s.engine.Shows db.handle likes.table before last ∧
    (likes.remove user db s).1 = .ok (Liked likes user calls) ∧
    (likes.remove user db s).2.engine.Shows db.handle likes.table after last ∧
    before.length = after.length + if Liked likes user calls then 1 else 0
  /-- A call about another owner changes no answer about this one. -/
  apart : ∀ call : Call, call.Proper m → call.target? ≠ some likes →
    (likes.all db (call.perform db s).2).1 = (likes.all db s).1 ∧
    (likes.count db (call.perform db s).2).1 = (likes.count db s).1 ∧
    ∀ user, Binary64.IsSmall user →
      (likes.contains user db (call.perform db s).2).1 = (likes.contains user db s).1

/-- The likes of an entity are a set of pairs of owners and users, as the calls have left it. -/
structure AreSet (m : Model) (db : Database) (calls : List Call) (s : Session) : Prop where
  /-- No two rows are about the same owner and the same user. -/
  rows : ∃ rows last, s.engine.Shows db.handle (tableOf m) rows last ∧
    rows.Pairwise fun row other =>
      ¬(row.value (keyOf m) = other.value (keyOf m) ∧ row.value "user_id" = other.value "user_id")
  told : ∀ ownerId, Binary64.IsSmall ownerId → Told ⟨tableOf m, keyOf m, ownerId⟩ m db calls s

/-- Of likes that are distinct at most one is about an owner and a user. -/
theorem length_eq_filter_add {items : List StoredLike}
    (distinct : (items.map fun l => (l.ownerId, l.user)).Nodup) (ownerId user : Int) :
    items.length = (items.filter fun l => !(l.ownerId == ownerId && l.user == user)).length +
      if (items.any fun l => l.ownerId == ownerId && l.user == user) then 1 else 0 := by
  have about : (items.countP fun l => l.ownerId == ownerId && l.user == user) =
      if (items.any fun l => l.ownerId == ownerId && l.user == user) then 1 else 0 := by
    have counted := distinct.count (a := (ownerId, user))
    rw [List.count, List.countP_map] at counted
    refine counted.trans (if_congr ?_ rfl rfl)
    rw [List.any_eq_true, List.mem_map]
    simp only [Prod.mk.injEq, Bool.and_eq_true, beq_iff_eq]
  rw [← about, ← List.countP_eq_length_filter, Nat.add_comm]
  refine (List.length_eq_countP_add_countP _).trans (congrArg _ (List.countP_congr fun l _ => ?_))
  rw [decide_eq_true_iff, Bool.not_eq_true, Bool.not_eq_true']

/-- **Likes are a set.** -/
theorem areSet (likeable : m.traits.likeable.isEnabled = true)
    (apart : ApartColumns (tableOf m) (keyOf m)) (proper : ∀ call ∈ calls, call.Proper m)
    (empty : s.engine.Shows db.handle (tableOf m) [] last) (counted : 0 ≤ last)
    (room : last + calls.length < maxInt64) :
    AreSet m db calls (Task.inTurn Call.perform db calls s) := by
  obtain ⟨items, reached, bound, holds, tally⟩ :=
    run likeable apart proper empty counted (Int.le_of_lt room)
  generalize Task.inTurn Call.perform db calls s = s' at holds ⊢
  have users : ∀ l ∈ items, fitsInt64 l.user = true :=
    fun l mem => fitsInt64_of_small (tally.users l mem)
  refine ⟨⟨_, _, holds.shown, ?_⟩, fun ownerId small => ⟨?_, ?_, ?_, ?_⟩⟩
  · refine List.pairwise_map.2 ((List.pairwise_map.1 tally.distinct).imp ?_)
    rintro l l' different ⟨owner, user⟩
    change (l.toRow _).value _ = (l'.toRow _).value _ at owner user
    rw [Row.value_eq (apart.get?_key l), Row.value_eq (apart.get?_key l')] at owner
    rw [ApartColumns.value_user, ApartColumns.value_user] at user
    refine different (Prod.ext ?_ ?_)
    · exact Number.int.inj (Value.number.inj owner)
    · exact Number.int.inj (Value.number.inj user)
  · intro user smallUser
    obtain ⟨answer, answered, rfl, -⟩ := (contains_answers apart small smallUser holds).outcome
    rw [answered, tally.standing]
  · obtain ⟨_, answered, rfl, -⟩ := (all_answers apart small users holds).outcome
    obtain ⟨_, counted, rfl, -⟩ := (count_answers apart small holds).outcome
    refine ⟨_, answered, by rw [counted, List.length_map], ?_, ?_⟩
    · intro user
      rw [← tally.standing, ← List.any_filter, List.any_eq_true, List.map_map, List.mem_map]
      simp only [Function.comp_apply, beq_iff_eq]
      rfl
    · obtain ⟨place, since, ascend⟩ := tally.since
      -- The owner is known, so the stored like is known by what is read of it.
      obtain ⟨place', placed⟩ : ∃ place' : Like → Nat,
          ∀ l ∈ items.filter (fun l => l.ownerId == ownerId), place' l.like = place l := by
        refine ⟨fun l => place ⟨l.id, l.user, ownerId, l.createdAt.getD ""⟩, fun l mem => ?_⟩
        rw [← beq_iff_eq.1 (List.mem_filter.1 mem).2]
        rfl
      refine ⟨place', ?_, ?_⟩
      · intro l mem
        obtain ⟨stored, there, rfl⟩ := List.mem_map.1 mem
        have since := since stored (List.mem_filter.1 there).1
        rw [beq_iff_eq.1 (List.mem_filter.1 there).2] at since
        rw [placed stored there]
        exact since
      · refine List.pairwise_map.2 ((ascend.sublist List.filter_sublist).imp_of_mem ?_)
        intro l l' mem mem' before
        rwa [placed l mem, placed l' mem']
  · intro user smallUser
    obtain ⟨answer, answered, rfl, after⟩ := (remove_answers apart small smallUser holds).outcome
    refine ⟨_, _, _, holds.shown, ?_, after.shown, ?_⟩
    · rw [answered, tally.standing]
    · rw [List.length_map, List.length_map, ← tally.standing]
      exact length_eq_filter_add tally.distinct ownerId user
  · intro call proper other
    obtain ⟨items', last', -, holds', tally', same⟩ :=
      step likeable apart proper holds tally (by omega)
    have users' : ∀ l ∈ items', fitsInt64 l.user = true :=
      fun l mem => fitsInt64_of_small (tally'.users l mem)
    refine ⟨?_, ?_, fun user smallUser => ?_⟩
    · obtain ⟨_, before, rfl, -⟩ := (all_answers apart small users holds).outcome
      obtain ⟨_, after, rfl, -⟩ := (all_answers apart small users' holds').outcome
      rw [before, after, same ownerId other]
    · obtain ⟨_, before, rfl, -⟩ := (count_answers apart small holds).outcome
      obtain ⟨_, after, rfl, -⟩ := (count_answers apart small holds').outcome
      rw [before, after, same ownerId other]
    · obtain ⟨_, before, rfl, -⟩ := (contains_answers apart small smallUser holds).outcome
      obtain ⟨_, after, rfl, -⟩ := (contains_answers apart small smallUser holds').outcome
      rw [before, after, ← List.any_filter, same ownerId other, List.any_filter]

/-! ### Posts and users -/

/-- Posts that can be liked. -/
def likedPost : Model :=
  .bare "Post" "posts" [] { likeable := .enabled true }

/-- Users that can be liked. -/
def likedUser : Model :=
  .bare "User" "users" [] { likeable := .enabled true }

/-- The first instance of an entity is liked twice by one user. -/
def likedTwice (m : Model) : List Call :=
  [⟨Instance.saved m 1, 7, .like⟩, ⟨Instance.saved m 1, 7, .like⟩]

theorem proper_likedTwice (m : Model) (key : m.primaryKey = "id") :
    ∀ call ∈ likedTwice m, call.Proper m := by
  intro call mem
  have same : call = ⟨Instance.saved m 1, 7, .like⟩ := by
    simpa [likedTwice] using mem
  subst same
  have smallUser : Binary64.IsSmall 7 := by decide
  exact ⟨fun _ => ⟨⟨1, Instance.id?_saved key (by decide), by decide⟩, smallUser⟩,
    fun other => absurd rfl other⟩

theorem areSet_posts :
    likedPost.traits.likeable.isEnabled = true ∧
    ApartColumns (tableOf likedPost) (keyOf likedPost) ∧
    (∀ call ∈ likedTwice likedPost, call.Proper likedPost) ∧
    Session.start.engine.Shows Database.plain.handle (tableOf likedPost) [] 0 ∧
    AreSet likedPost .plain (likedTwice likedPost)
      (Task.inTurn Call.perform .plain (likedTwice likedPost) Session.start) := by
  have apart : ApartColumns (tableOf likedPost) (keyOf likedPost) := by decide +kernel
  have proper := proper_likedTwice likedPost rfl
  have empty := Session.start_shows (tableOf likedPost)
  exact ⟨rfl, apart, proper, empty, areSet rfl apart proper empty (by decide) (by decide)⟩

/-- The likes of users have one column for the owner and the user, so that a user who has liked the
owner does not like it. -/
theorem not_areSet_users :
    likedUser.traits.likeable.isEnabled = true ∧
    (∀ call ∈ likedTwice likedUser, call.Proper likedUser) ∧
    Session.start.engine.Shows Database.plain.handle (tableOf likedUser) [] 0 ∧
    ¬AreSet likedUser .plain (likedTwice likedUser)
      (Task.inTurn Call.perform .plain (likedTwice likedUser) Session.start) := by
  refine ⟨rfl, proper_likedTwice likedUser rfl, Session.start_shows _, fun set => ?_⟩
  have liked := (set.told 1 (by decide)).contains 7 (by decide)
  have answered := congrArg Except.toOption liked
  exact absurd answered (by decide +kernel)

end Likes

end EntityStore
