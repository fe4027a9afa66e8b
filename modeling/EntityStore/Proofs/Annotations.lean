import EntityStore.Proofs.Calls
import EntityStore.Proofs.Faces
import EntityStore.Proofs.Records

/-!
# Owners of tags and comments do not interfere

The tags and the comments of all owners stand in two tables and draw their keys from one sequence a
table. What a call does to the tables is one of four effects (`Annotations.Effect`). For one owner,
the calls of all owners come to what its own successful calls come to when they are made alone
(`Annotations.Alone`), up to a permutation of the drawn keys and the stamps: main result
`Annotations.owners_apart`. Owners whose keys have more than 53 bits may be taken for one another
(`Annotations.not_owners_apart_large`).
-/

namespace EntityStore

/-! ### Operations of one owner -/

section

variable {db : Database} {s : Session} {owner : Owner} {last : Int}

namespace Tags

variable {items : List Tag}

/-- The tags of an owner. -/
def ofOwner (owner : Owner) : Tags :=
  ⟨Tag.records.rows owner⟩

theorem ofInstance_eq_ok {i : Instance} (saved : i.owner? = some owner) {tags : Tags} :
    Tags.ofInstance i = .ok tags ↔ i.model.traits.taggable = true ∧ tags = ofOwner owner :=
  OwnedRows.traited_eq_ok saved Tags.mk tags

theorem all_answers (owner : Owner) (owners : ∀ t ∈ items, Binary64.IsSmall t.ownerId)
    (orders : ∀ t ∈ items, fitsInt64 t.order = true)
    (holds : Tag.records.Holds s.engine db.handle items last) :
    (ofOwner owner).all.Answers db s fun answer s' =>
      answer = (items.filter fun t => Tag.records.owner t == owner) ∧ s'.engine = s.engine := by
  have reads : ∀ t ∈ items, (Tag.records.row t).decode Tag.read = .ok (id t) := fun t mem =>
    Tag.decode_toRow (holds.id_fits mem) (fitsInt64_of_small (owners t mem)) (orders t mem)
  have fetched := Tag.records.fetch holds (Tag.records.decides_conditions owners owner) reads
  exact fetched.mono fun answer s' h => ⟨by rw [h.1, List.map_id], h.2⟩

theorem count_answers (owner : Owner) (owners : ∀ t ∈ items, Binary64.IsSmall t.ownerId)
    (holds : Tag.records.Holds s.engine db.handle items last) :
    (ofOwner owner).count.Answers db s fun answer s' =>
      answer = ((items.filter fun t => Tag.records.owner t == owner).length : Int) ∧
        s'.engine = s.engine :=
  Tag.records.countOf holds (Tag.records.decides_conditions owners owner)

theorem add_answers (label : Label) (small : Binary64.IsSmall owner.id)
    (room : Binary64.IsSmall (last + 1)) (holds : Tag.records.Holds s.engine db.handle items last) :
    ((ofOwner owner).add label).Answers db s fun _ s' => ∃ stamp,
      Tag.records.Holds s'.engine db.handle
        (items ++ [Tag.made label (last + 1) owner.id owner.type stamp]) (last + 1) := by
  refine Task.Answers.bind (Tag.records.insertStamped holds
    (Row.stamped_keyless (Tag.get?_newRow label owner.id owner.type (by decide)) _)
    (le_maxInt64_of_small room)
    (Tag.newRow_stamped label (last + 1) owner.id owner.type s.clock.text)) ?_
  rintro row s' ⟨after, answered⟩
  rw [answered room]
  exact Task.Answers.ofExcept
    (Tag.decode_toRow (fitsInt64_of_small room) (fitsInt64_of_small small) rfl) ⟨_, after⟩

theorem add_spares (label : Label) {table : String} (other : table ≠ Tag.records.name) :
    ((ofOwner owner).add label).Spares db table :=
  Task.Spares.bind (Task.Spares.insertStamped other _) fun _ => Task.Spares.ofExcept _

theorem remove_answers (owner : Owner) (owners : ∀ t ∈ items, Binary64.IsSmall t.ownerId)
    (keys : Binary64.IsSmall last) (id : Int)
    (holds : Tag.records.Holds s.engine db.handle items last) :
    ((ofOwner owner).remove id).Answers db s fun answer s' =>
      answer = items.any (Tag.records.isOwn owner id) ∧
        Tag.records.Holds s'.engine db.handle
          (items.filter fun t => !Tag.records.isOwn owner id t) last := by
  refine Task.Answers.bind (Tag.records.delete holds (Tag.records.decides_key owners
    (fun _ mem => holds.id_small keys mem) owner id)) ?_
  rintro removed s' ⟨rfl, after⟩
  refine Task.Answers.pure ⟨?_, after⟩
  rw [Bool.eq_iff_iff, decide_eq_true_eq, List.countP_pos_iff, List.any_eq_true]
  rfl

theorem remove_spares (id : Int) {table : String} (other : table ≠ Tag.records.name) :
    ((ofOwner owner).remove id).Spares db table :=
  Task.Spares.bind (Task.Spares.delete other) fun _ => Task.Spares.pure _

end Tags

namespace Comments

variable {items : List Comment}

/-- The comments on an owner. -/
def ofOwner (owner : Owner) : Comments :=
  ⟨Comment.records.rows owner⟩

theorem ofInstance_eq_ok {i : Instance} (saved : i.owner? = some owner) {comments : Comments} :
    Comments.ofInstance i = .ok comments ↔
      i.model.traits.commentable = true ∧ comments = ofOwner owner :=
  OwnedRows.traited_eq_ok saved Comments.mk comments

theorem reads (owners : ∀ c ∈ items, Binary64.IsSmall c.ownerId)
    (holds : Comment.records.Holds s.engine db.handle items last) :
    ∀ c ∈ items, (Comment.records.row c).decode Comment.read = .ok (id c) := fun c mem =>
  Comment.decode_toRow (holds.id_fits mem) (fitsInt64_of_small (owners c mem))

theorem all_answers (owner : Owner) (owners : ∀ c ∈ items, Binary64.IsSmall c.ownerId)
    (holds : Comment.records.Holds s.engine db.handle items last) :
    (ofOwner owner).all.Answers db s fun answer s' =>
      answer = (items.filter fun c => Comment.records.owner c == owner) ∧
        s'.engine = s.engine := by
  have fetched := Comment.records.fetch holds (Comment.records.decides_conditions owners owner)
    (reads owners holds)
  exact fetched.mono fun answer s' h => ⟨by rw [h.1, List.map_id], h.2⟩

theorem count_answers (owner : Owner) (owners : ∀ c ∈ items, Binary64.IsSmall c.ownerId)
    (holds : Comment.records.Holds s.engine db.handle items last) :
    (ofOwner owner).count.Answers db s fun answer s' =>
      answer = ((items.filter fun c => Comment.records.owner c == owner).length : Int) ∧
        s'.engine = s.engine :=
  Comment.records.countOf holds (Comment.records.decides_conditions owners owner)

theorem text_injective : ∀ status status' : CommentStatus, status.text = status'.text →
    status = status' := by
  rintro (_ | _ | _) (_ | _ | _) same <;> first | rfl | exact absurd same (by decide)

theorem withStatus_answers (owner : Owner) (owners : ∀ c ∈ items, Binary64.IsSmall c.ownerId)
    (status : CommentStatus) (holds : Comment.records.Holds s.engine db.handle items last) :
    ((ofOwner owner).withStatus status).Answers db s fun answer s' =>
      answer = ((items.filter fun c => Comment.records.owner c == owner).filter
        fun c => c.status == status) ∧ s'.engine = s.engine := by
  have decides := Comment.records.decides_filter owners owner
    (show '.' ∉ "status".toList by decide) (.text status.text)
  have fetched := Comment.records.fetch holds decides (reads owners holds)
  refine fetched.mono fun answer s' h => ⟨?_, h.2⟩
  rw [h.1, List.map_id, List.filter_filter]
  refine List.filter_congr fun c _ => ?_
  have compared : ((Comment.records.row c).value "status").looseEq (.text status.text) =
      (c.status == status) := by
    refine (Value.looseEq_text c.status.text status.text).trans ?_
    rw [Bool.eq_iff_iff, decide_eq_true_eq, beq_iff_eq]
    exact ⟨text_injective _ _, congrArg _⟩
  rw [compared, Bool.and_comm]

theorem add_answers (title body : String) (small : Binary64.IsSmall owner.id)
    (room : Binary64.IsSmall (last + 1))
    (holds : Comment.records.Holds s.engine db.handle items last) :
    ((ofOwner owner).add title body).Answers db s fun _ s' => ∃ stamp,
      Comment.records.Holds s'.engine db.handle
        (items ++ [Comment.made title body (last + 1) owner.id owner.type stamp]) (last + 1) := by
  refine Task.Answers.bind (Comment.records.insertStamped holds
    (Row.stamped_keyless (Comment.get?_newRow title body owner.id owner.type (by decide)) _)
    (le_maxInt64_of_small room)
    (Comment.newRow_stamped title body (last + 1) owner.id owner.type s.clock.text)) ?_
  rintro row s' ⟨after, answered⟩
  rw [answered room]
  exact Task.Answers.ofExcept
    (Comment.decode_toRow (fitsInt64_of_small room) (fitsInt64_of_small small)) ⟨_, after⟩

theorem add_spares (title body : String) {table : String} (other : table ≠ Comment.records.name) :
    ((ofOwner owner).add title body).Spares db table :=
  Task.Spares.bind (Task.Spares.insertStamped other _) fun _ => Task.Spares.ofExcept _

theorem setStatus_answers (owner : Owner) (owners : ∀ c ∈ items, Binary64.IsSmall c.ownerId)
    (keys : Binary64.IsSmall last) (id : Int) (status : CommentStatus)
    (holds : Comment.records.Holds s.engine db.handle items last) :
    ((ofOwner owner).setStatus id status).Answers db s fun answer s' =>
      answer = items.any (Comment.records.isOwn owner id) ∧ ∃ stamp,
        Comment.records.Holds s'.engine db.handle
          (Comment.records.change owner id (·.judged status stamp) items) last := by
  refine Task.Answers.bind (Q := fun changed s' =>
    changed = items.countP (Comment.records.isOwn owner id) ∧ ∃ stamp,
      Comment.records.Holds s'.engine db.handle
        (Comment.records.change owner id (·.judged status stamp) items) last) ?_ ?_
  · refine Task.Answers.bind Task.Answers.stamp ?_
    rintro stamp s' ⟨rfl, same⟩
    exact (Comment.records.update (·.judged status s.clock.text) (holds.congr same)
      (Comment.records.decides_key owners (fun _ mem => holds.id_small keys mem) owner id)
      (fun _ => rfl) (fun c => c.toRow_merge status _)).mono fun _ _ h => ⟨h.1, _, h.2⟩
  · rintro changed s' ⟨rfl, after⟩
    refine Task.Answers.pure ⟨?_, after⟩
    rw [Bool.eq_iff_iff, decide_eq_true_eq, List.countP_pos_iff, List.any_eq_true]

theorem setStatus_spares (id : Int) (status : CommentStatus) {table : String}
    (other : table ≠ Comment.records.name) :
    ((ofOwner owner).setStatus id status).Spares db table :=
  Task.Spares.bind (Task.Spares.bind Task.Spares.stamp fun _ => Task.Spares.update other)
    fun _ => Task.Spares.pure _

end Comments

end

/-! ### Calls and their effects -/

/-- A tag without its key and its stamps. -/
def Tag.content (t : Tag) : Tag :=
  { t with id := 0, createdAt := none, updatedAt := none }

/-- A comment without its key and its stamps. -/
def Comment.content (c : Comment) : Comment :=
  { c with id := 0, createdAt := none, updatedAt := none }

/-- The tags and the comments of all owners, and the last keys that were drawn for them. -/
structure Annotations where
  tags : List Tag := []
  comments : List Comment := []
  lastTag : Int := 0
  lastComment : Int := 0

namespace Annotations

/-- The two tables of a session hold the tags and the comments, all of which can be read back, and
the keys of their owners have no more than 53 bits. -/
structure Held (a : Annotations) (s : Session) (handle : Handle) : Prop where
  tags : Tag.records.Holds s.engine handle a.tags a.lastTag
  comments : Comment.records.Holds s.engine handle a.comments a.lastComment
  tagOwners : ∀ t ∈ a.tags, Binary64.IsSmall t.ownerId
  commentOwners : ∀ c ∈ a.comments, Binary64.IsSmall c.ownerId
  orders : ∀ t ∈ a.tags, fitsInt64 t.order = true

/-- So many keys can still be drawn for both tables before they have more than 53 bits. -/
structure Roomy (a : Annotations) (n : Int) : Prop where
  tags : Binary64.IsSmall (a.lastTag + n)
  comments : Binary64.IsSmall (a.lastComment + n)

inductive Act where
  | addTag (label : Label)
  | removeTag (id : Int)
  | addComment (title body : String)
  | setStatus (id : Int) (status : CommentStatus)

namespace Act

/-- The tag that is named. -/
def tag? : Act → Option Int
  | .removeTag id => some id
  | _ => none

/-- The comment that is named. -/
def comment? : Act → Option Int
  | .setStatus id _ => some id
  | _ => none

def rename (ρ κ : Equiv.Perm Int) : Act → Act
  | .removeTag id => .removeTag (ρ id)
  | .setStatus id status => .setStatus (κ id) status
  | .addTag label => .addTag label
  | .addComment title body => .addComment title body

/-- Acts on an instance and answers whether that has done something. -/
def perform (i : Instance) : Act → Task Bool
  | .addTag label => do
    let tags ← Work.ofExcept (Tags.ofInstance i)
    let _ ← tags.add label
    return true
  | .removeTag id => do
    let tags ← Work.ofExcept (Tags.ofInstance i)
    tags.remove id
  | .addComment title body => do
    let comments ← Work.ofExcept (Comments.ofInstance i)
    let _ ← comments.add title body
    return true
  | .setStatus id status => do
    let comments ← Work.ofExcept (Comments.ofInstance i)
    comments.setStatus id status

/-- The entity has the trait that the act needs. -/
def enabled (m : Model) : Act → Bool
  | .addTag _ | .removeTag _ => m.traits.taggable
  | .addComment .. | .setStatus .. => m.traits.commentable

theorem rename_congr {ρ κ ρ' κ' : Equiv.Perm Int} {act : Act}
    (tags : ∀ id ∈ act.tag?, ρ' id = ρ id) (comments : ∀ id ∈ act.comment?, κ' id = κ id) :
    act.rename ρ' κ' = act.rename ρ κ := by
  cases act with
  | addTag | addComment => rfl
  | removeTag id => rw [rename, rename, tags id rfl]
  | setStatus id status => rw [rename, rename, comments id rfl]

end Act

/-- A call on the tags or the comments of an instance. -/
structure Call where
  owner : Instance
  act : Act

namespace Call

/-- Makes the call and answers whether it has done something. -/
def perform (call : Call) : Task Bool :=
  call.act.perform call.owner

def rename (ρ κ : Equiv.Perm Int) (call : Call) : Call :=
  { call with act := call.act.rename ρ κ }

def isBy (owner : Owner) (call : Call) : Bool :=
  call.owner.owner? == some owner

/-- The call is made by a saved instance of an entity with the trait, and the key of the instance
has no more than 53 bits. -/
structure Proper (call : Call) : Prop where
  enabled : call.act.enabled call.owner.model = true
  saved : ∃ owner, call.owner.owner? = some owner ∧ Binary64.IsSmall owner.id

theorem Proper.rename {call : Call} (proper : call.Proper) (ρ κ : Equiv.Perm Int) :
    (call.rename ρ κ).Proper := by
  obtain ⟨owner, act⟩ := call
  refine ⟨?_, proper.saved⟩
  have enabled := proper.enabled
  cases act <;> exact enabled

end Call

/-- What a call of an owner does to the tables, and whether it has done something. -/
inductive Effect (o : Owner) (a : Annotations) : Act → Bool → Annotations → Prop
  | addTag (label : Label) (stamp : String) : Effect o a (.addTag label) true
      { a with
        tags := a.tags ++ [.made label (a.lastTag + 1) o.id o.type stamp]
        lastTag := a.lastTag + 1 }
  | removeTag (id : Int) : Effect o a (.removeTag id) (a.tags.any (Tag.records.isOwn o id))
      { a with tags := a.tags.filter fun t => !Tag.records.isOwn o id t }
  | addComment (title body : String) (stamp : String) : Effect o a (.addComment title body) true
      { a with
        comments := a.comments ++ [.made title body (a.lastComment + 1) o.id o.type stamp]
        lastComment := a.lastComment + 1 }
  | setStatus (id : Int) (status : CommentStatus) (stamp : String) :
    Effect o a (.setStatus id status) (a.comments.any (Comment.records.isOwn o id))
      { a with comments := Comment.records.change o id (·.judged status stamp) a.comments }

/-- A call that has done nothing leaves the tables as they are. -/
theorem Effect.unmoved {o : Owner} {a a' : Annotations} {act : Act}
    (effect : Effect o a act false a') : a' = a := by
  generalize none : false = done at effect
  cases effect with
  | addTag | addComment => cases none
  | removeTag id =>
    rw [(OwnedTable.unmoved none.symm fun t => t).1]
  | setStatus id status stamp =>
    rw [(OwnedTable.unmoved none.symm _).2]

/-! ### What one call does -/

section

variable {db : Database} {s : Session} {a : Annotations} {call : Call}

namespace Act

variable {i : Instance} {o : Owner} {act : Act}

theorem perform_answers (enabled : act.enabled i.model = true) (saved : i.owner? = some o)
    (small : Binary64.IsSmall o.id) (held : a.Held s db.handle) (room : a.Roomy 1) :
    (act.perform i).Answers db s fun answer s' =>
      ∃ a', Effect o a act answer a' ∧ a'.Held s' db.handle := by
  have elsewhere : Comment.records.name ≠ Tag.records.name := by decide
  have keys : Binary64.IsSmall a.lastTag := room.tags.of_le held.tags.counted (by omega)
  have keysComment : Binary64.IsSmall a.lastComment :=
    room.comments.of_le held.comments.counted (by omega)
  cases act with
  | addTag label =>
    rw [perform, (Tags.ofInstance_eq_ok saved).2 ⟨enabled, rfl⟩, Work.ok_bind]
    have added := (Tags.add_answers label small room.tags held.tags).sparing
      (Tags.add_spares label elsewhere) held.comments.shown
    refine Task.Answers.bind added ?_
    rintro - s' ⟨⟨stamp, after⟩, comments⟩
    refine Task.Answers.pure ⟨_, .addTag label stamp, after,
      { held.comments with shown := comments }, ?_, held.commentOwners, ?_⟩
    · exact List.forall_mem_append.2 ⟨held.tagOwners, by simpa [Tag.made] using small⟩
    · refine List.forall_mem_append.2 ⟨held.orders, ?_⟩
      intro t mem
      rw [List.mem_singleton.1 mem]
      rfl
  | removeTag id =>
    rw [perform, (Tags.ofInstance_eq_ok saved).2 ⟨enabled, rfl⟩, Work.ok_bind]
    have removed := (Tags.remove_answers o held.tagOwners keys id held.tags).sparing
      (Tags.remove_spares id elsewhere) held.comments.shown
    refine removed.mono ?_
    rintro answer s' ⟨⟨rfl, after⟩, comments⟩
    exact ⟨_, .removeTag id, after, { held.comments with shown := comments },
      fun t mem => held.tagOwners t (List.mem_filter.1 mem).1, held.commentOwners,
      fun t mem => held.orders t (List.mem_filter.1 mem).1⟩
  | addComment title body =>
    rw [perform, (Comments.ofInstance_eq_ok saved).2 ⟨enabled, rfl⟩, Work.ok_bind]
    have added := (Comments.add_answers title body small room.comments held.comments).sparing
      (Comments.add_spares title body elsewhere.symm) held.tags.shown
    refine Task.Answers.bind added ?_
    rintro - s' ⟨⟨stamp, after⟩, tags⟩
    refine Task.Answers.pure ⟨_, .addComment title body stamp,
      { held.tags with shown := tags }, after, held.tagOwners, ?_, held.orders⟩
    exact List.forall_mem_append.2 ⟨held.commentOwners, by simpa [Comment.made] using small⟩
  | setStatus id status =>
    rw [perform, (Comments.ofInstance_eq_ok saved).2 ⟨enabled, rfl⟩, Work.ok_bind]
    have changed := (Comments.setStatus_answers o held.commentOwners keysComment id status
      held.comments).sparing (Comments.setStatus_spares id status elsewhere.symm) held.tags.shown
    refine changed.mono ?_
    rintro answer s' ⟨⟨rfl, stamp, after⟩, tags⟩
    refine ⟨_, .setStatus id status stamp, { held.tags with shown := tags }, after,
      held.tagOwners, ?_, held.orders⟩
    intro c mem
    obtain ⟨old, there, rfl⟩ := List.mem_map.1 mem
    split
    · exact held.commentOwners old there
    · exact held.commentOwners old there

/-- A call does not touch any other table. -/
theorem spares (enabled : act.enabled i.model = true) (saved : i.owner? = some o) {table : String}
    (tags : table ≠ Tag.records.name) (comments : table ≠ Comment.records.name) :
    (act.perform i).Spares db table := by
  cases act with
  | addTag label =>
    rw [perform, (Tags.ofInstance_eq_ok saved).2 ⟨enabled, rfl⟩, Work.ok_bind]
    exact Task.Spares.bind (Tags.add_spares label tags) fun _ => Task.Spares.pure _
  | removeTag id =>
    rw [perform, (Tags.ofInstance_eq_ok saved).2 ⟨enabled, rfl⟩, Work.ok_bind]
    exact Tags.remove_spares id tags
  | addComment title body =>
    rw [perform, (Comments.ofInstance_eq_ok saved).2 ⟨enabled, rfl⟩, Work.ok_bind]
    exact Task.Spares.bind (Comments.add_spares title body comments) fun _ => Task.Spares.pure _
  | setStatus id status =>
    rw [perform, (Comments.ofInstance_eq_ok saved).2 ⟨enabled, rfl⟩, Work.ok_bind]
    exact Comments.setStatus_spares id status comments

end Act

end

/-! ### Runs for one owner -/

/-- For the owner, the tables of one run are those of another under renamed keys; the acts have
named keys that are led from one run to the other. -/
structure Follows (o : Owner) (start : Annotations) (own : List Act) (ρ κ : Equiv.Perm Int)
    (a a' : Annotations) : Prop where
  tags : Tag.records.Follows Tag.content o start.lastTag (own.filterMap Act.tag?) ρ
    a.tags a.lastTag a'.tags a'.lastTag
  comments : Comment.records.Follows Comment.content o start.lastComment
    (own.filterMap Act.comment?) κ a.comments a.lastComment a'.comments a'.lastComment

/-- Keys are not greater than the last one that was drawn. -/
structure Drawn (a : Annotations) : Prop where
  tags : ∀ t ∈ a.tags, t.id ≤ a.lastTag
  comments : ∀ c ∈ a.comments, c.id ≤ a.lastComment

theorem Held.drawn {a : Annotations} {s : Session} {handle : Handle} (held : a.Held s handle) :
    a.Drawn :=
  ⟨fun t mem => (held.tags.keys t mem).2, fun c mem => (held.comments.keys c mem).2⟩

section

variable {o : Owner} {start a a₁ a' a₁' : Annotations} {own : List Act} {ρ κ : Equiv.Perm Int}
  {act : Act} {done : Bool}

/-- What another owner does, and what does nothing, the owner does not see. -/
theorem Effect.unseen {other : Owner} (effect : Effect other a act done a₁)
    (unseen : other = o → done = false) (follows : Follows o start own ρ κ a a') :
    Follows o start own ρ κ a₁ a' := by
  by_cases same : other = o
  · rw [unseen same] at effect
    rwa [effect.unmoved]
  · obtain ⟨tags, comments⟩ := follows
    cases effect with
    | addTag label stamp =>
      exact ⟨tags.unseen (by simp) (OwnedTable.faces_append_other same), comments⟩
    | removeTag id =>
      exact ⟨tags.unseen (Int.le_refl _) (OwnedTable.faces_remove_other same), comments⟩
    | addComment title body stamp =>
      exact ⟨tags, comments.unseen (by simp) (OwnedTable.faces_append_other same)⟩
    | setStatus id status stamp =>
      exact ⟨tags, comments.unseen (Int.le_refl _)
        (OwnedTable.faces_change_other same fun _ => rfl)⟩

/-- A new status shows in the face of the comment; the instant of the change does not. -/
theorem faces_judged (id : Int) (status : CommentStatus) (stamp : String) (items : List Comment) :
    Comment.records.faces Comment.content κ o
        (Comment.records.change o id (·.judged status stamp) items) =
      (Comment.records.faces Comment.content κ o items).map fun face =>
        if face.1 = κ id then (face.1, { face.2 with status }) else face :=
  OwnedTable.faces_change_own (fun c : Comment => { c with status }) (fun _ => rfl) (fun _ => rfl)
    fun _ => rfl

/-- What the owner does in one run it can do in the other: the renamed act succeeds as well, and the
runs are alike after it. Acts before this one are renamed as before. -/
theorem Effect.followed (effect : Effect o a act true a₁)
    (effect' : Effect o a' (act.rename ρ κ) done a₁') (follows : Follows o start own ρ κ a a')
    (drawn : a.Drawn) (drawn' : a'.Drawn) :
    done = true ∧ ∃ ρ' κ', (∀ earlier ∈ own ++ [act], earlier.rename ρ' κ' = earlier.rename ρ κ) ∧
      Follows o start (own ++ [act]) ρ' κ' a₁ a₁' := by
  obtain ⟨tags, comments⟩ := follows
  generalize succeeded : true = did at effect
  have unnamed {key? : Act → Option Int} (none : key? act = none) :
      own.filterMap key? = (own ++ [act]).filterMap key? := by
    simp [List.filterMap_append, none]
  have named {key? : Act → Option Int} {id : Int} (some : key? act = some id) :
      own.filterMap key? ++ [id] = (own ++ [act]).filterMap key? := by
    simp [List.filterMap_append, some]
  cases effect with
  | addTag label stamp =>
    cases effect' with
    | addTag _ stamp' =>
      obtain ⟨kept, tags'⟩ := tags.draw drawn.tags drawn'.tags
        (.made label (a.lastTag + 1) o.id o.type stamp)
        (.made label (a'.lastTag + 1) o.id o.type stamp') rfl rfl rfl rfl rfl
      rw [unnamed rfl] at kept tags' comments
      exact ⟨succeeded, _, κ, fun earlier mem => Act.rename_congr
        (fun id named => kept id (List.mem_filterMap.2 ⟨earlier, mem, named⟩)) fun _ _ => rfl,
        tags', comments⟩
  | removeTag id =>
    cases effect' with
    | removeTag =>
      obtain ⟨there, keys⟩ := tags.present drawn.tags drawn'.tags succeeded.symm
      refine ⟨there.trans succeeded, ρ, κ, fun _ _ => rfl, ?_, ?_⟩
      · rw [← named rfl]
        refine tags.both ?_ keys
        rw [OwnedTable.faces_remove_own, OwnedTable.faces_remove_own, tags.alike]
        rfl
      · rw [← unnamed rfl]
        exact comments
  | addComment title body stamp =>
    cases effect' with
    | addComment _ _ stamp' =>
      obtain ⟨kept, comments'⟩ := comments.draw drawn.comments drawn'.comments
        (.made title body (a.lastComment + 1) o.id o.type stamp)
        (.made title body (a'.lastComment + 1) o.id o.type stamp') rfl rfl rfl rfl rfl
      rw [unnamed rfl] at kept comments' tags
      exact ⟨succeeded, ρ, _, fun earlier mem => Act.rename_congr (fun _ _ => rfl)
        fun id named => kept id (List.mem_filterMap.2 ⟨earlier, mem, named⟩), tags, comments'⟩
  | setStatus id status stamp =>
    cases effect' with
    | setStatus _ _ stamp' =>
      obtain ⟨there, keys⟩ := comments.present drawn.comments drawn'.comments succeeded.symm
      refine ⟨there.trans succeeded, ρ, κ, fun _ _ => rfl, ?_, ?_⟩
      · rw [← unnamed rfl]
        exact tags
      · rw [← named rfl]
        refine comments.both ?_ keys
        rw [faces_judged, faces_judged, comments.alike]
        rfl

end

/-! ### Runs -/

/-- A call draws one key at most. -/
theorem Effect.grown {o : Owner} {a a' : Annotations} {act : Act} {done : Bool}
    (effect : Effect o a act done a') :
    a'.lastTag ≤ a.lastTag + 1 ∧ a'.lastComment ≤ a.lastComment + 1 := by
  cases effect <;> simp

/-- So many keys were drawn at most since the start. -/
structure Within (start : Annotations) (n : Int) (a : Annotations) : Prop where
  tags : a.lastTag ≤ start.lastTag + n
  comments : a.lastComment ≤ start.lastComment + n

section

variable {db : Database} {s : Session} {start a : Annotations} {calls : List Call} {o : Owner}

theorem Within.step {n : Int} (within : Within start n a) {act : Act} {done : Bool}
    {a' : Annotations} (effect : Effect o a act done a') : Within start (n + 1) a' := by
  obtain ⟨tags, comments⟩ := within
  obtain ⟨grown, grown'⟩ := effect.grown
  exact ⟨by omega, by omega⟩

theorem Held.roomy {n : Int} (held : a.Held s db.handle) (within : Within start n a)
    (room : start.Roomy (n + 1)) : a.Roomy 1 where
  tags := by
    have := held.tags.counted
    have := within.tags
    exact room.tags.of_le (by omega) (by omega)
  comments := by
    have := held.comments.counted
    have := within.comments
    exact room.comments.of_le (by omega) (by omega)

/-- The calls of one owner, in the order of the run, that have done something. -/
def ownCalls (o : Owner) (db : Database) (calls : List Call) (s : Session) : List Call :=
  (Task.successes Call.perform db calls s).filter (Call.isBy o)

/-- Beside the run of all calls: the run of the owner's own calls alone, under renamed keys. -/
structure Beside (o : Owner) (db : Database) (s : Session) (start a : Annotations) (own : List Call)
    (ρ κ : Equiv.Perm Int) (a' : Annotations) : Prop where
  held : a'.Held (Task.inTurn Call.perform db (own.map (Call.rename ρ κ)) s) db.handle
  succeeds : Task.successes Call.perform db (own.map (Call.rename ρ κ)) s =
    own.map (Call.rename ρ κ)
  follows : Follows o start (own.map Call.act) ρ κ a a'

/-- A successful call of the owner is made in both runs. -/
theorem Beside.call {own : List Call} {ρ κ : Equiv.Perm Int} {a₁ a' : Annotations}
    (beside : Beside o db s start a own ρ κ a') {call : Call} (proper : call.Proper)
    (saved : call.owner.owner? = some o) (effect : Effect o a call.act true a₁) (drawn : a.Drawn)
    (room : a'.Roomy 1) : ∃ ρ' κ' a₁' act done, Effect o a' act done a₁' ∧
      Beside o db s start a₁ (own ++ [call]) ρ' κ' a₁' := by
  obtain ⟨owner, savedToo, small⟩ := proper.saved
  obtain rfl : owner = o := Option.some.inj (savedToo.symm.trans saved)
  obtain ⟨done, ran, a₁', effect', held'⟩ := (Act.perform_answers (proper.rename ρ κ).enabled
    (show (call.rename ρ κ).owner.owner? = some owner from saved) small beside.held room).outcome
  obtain ⟨rfl, ρ', κ', kept, follows'⟩ :=
    effect.followed effect' beside.follows drawn beside.held.drawn
  have renamed : (own ++ [call]).map (Call.rename ρ' κ') =
      own.map (Call.rename ρ κ) ++ [call.rename ρ κ] := by
    rw [List.map_append, List.map_singleton]
    have same (earlier : Call) (mem : earlier.act ∈ own.map Call.act ++ [call.act]) :
        earlier.rename ρ' κ' = earlier.rename ρ κ := by
      rw [Call.rename, kept earlier.act mem]
      rfl
    rw [same call (by simp)]
    exact congrArg (· ++ _) (List.map_congr_left fun earlier mem =>
      same earlier (List.mem_append_left _ (List.mem_map_of_mem mem)))
  refine ⟨ρ', κ', a₁', _, _, effect', ?_, ?_, ?_⟩
  · rw [renamed, Task.inTurn_append]
    exact held'
  · rw [renamed, Task.successes_append, beside.succeeds]
    have answered : ((call.rename ρ κ).perform db (Task.inTurn Call.perform db
        (own.map (Call.rename ρ κ)) s)).1 = .ok true := ran
    rw [answered]
    rfl
  · rw [List.map_append]
    exact follows'

/-- What a run of calls leaves in the tables, and beside it, for every owner, what the run of its
own calls leaves. -/
theorem run (proper : ∀ call ∈ calls, call.Proper) (held : start.Held s db.handle)
    (room : start.Roomy calls.length) :
    ∃ a, a.Held (Task.inTurn Call.perform db calls s) db.handle ∧ Within start calls.length a ∧
      ∀ o, ∃ ρ κ a', Beside o db s start a (ownCalls o db calls s) ρ κ a' ∧
        Within start calls.length a' := by
  induction calls using List.reverseRecOn with
  | nil =>
    refine ⟨start, held, ⟨by simp, by simp⟩,
      fun o => ⟨1, 1, start, ⟨held, rfl, ?_⟩, by simp, by simp⟩⟩
    exact ⟨.refl _ _ _ _ _, .refl _ _ _ _ _⟩
  | append_singleton before call ih =>
    rw [List.length_append, List.length_singleton, Int.natCast_add] at room ⊢
    have less : start.Roomy before.length :=
      ⟨room.tags.of_le (by have := held.tags.counted; omega) (by omega),
        room.comments.of_le (by have := held.comments.counted; omega) (by omega)⟩
    obtain ⟨a, reached, within, each⟩ :=
      ih (fun call mem => proper call (List.mem_append_left _ mem)) less
    have own := proper call (by simp)
    obtain ⟨owner, saved, small⟩ := own.saved
    obtain ⟨answer, ran, a₁, effect, held₁⟩ := (Act.perform_answers own.enabled saved small reached
      (reached.roomy within room)).outcome
    refine ⟨a₁, ?_, within.step effect, fun o => ?_⟩
    · rw [Task.inTurn_append]
      exact held₁
    · obtain ⟨ρ, κ, a', beside, within'⟩ := each o
      have answered : (call.perform db (Task.inTurn Call.perform db before s)).1 = .ok answer := ran
      rw [ownCalls, Task.successes_append, answered, List.filter_append]
      by_cases seen : owner = o ∧ answer = true
      · obtain ⟨rfl, rfl⟩ := seen
        obtain ⟨ρ', κ', a₁', _, _, effect', beside'⟩ :=
          beside.call own saved effect reached.drawn (beside.held.roomy within' room)
        refine ⟨ρ', κ', a₁', ?_, within'.step effect'⟩
        have mine : [call].filter (Call.isBy owner) = [call] :=
          List.filter_cons_of_pos (by simp [Call.isBy, saved])
        rw [show (Except.ok true : Except Error Bool).toOption == some true from rfl,
          if_pos rfl, mine]
        exact beside'
      · have none : ((if (Except.ok answer : Except Error Bool).toOption == some true then [call]
            else []).filter (Call.isBy o)) = [] := by
          cases answer with
          | false => rfl
          | true =>
            refine List.filter_cons_of_neg fun mine => seen ⟨?_, rfl⟩
            rw [Call.isBy, saved, beq_iff_eq] at mine
            exact Option.some.inj mine
        rw [none, List.append_nil]
        refine ⟨ρ, κ, a', { beside with follows := effect.unseen ?_ beside.follows },
          by have := within'.tags; omega, by have := within'.comments; omega⟩
        exact fun same => Bool.eq_false_iff.2 fun done => seen ⟨same, done⟩

/-- What an instance is told after a run is what it is told after its own calls alone, under renamed
keys and apart from the stamps. -/
structure Alone (i : Instance) (db : Database) (s after : Session) (own : List Call)
    (ρ κ : Equiv.Perm Int) : Prop where
  /-- Its calls succeed alone too. -/
  succeeds : Task.successes Call.perform db own s = own
  tags : ∀ tags, Tags.ofInstance i = .ok tags → ∃ found alone,
    (tags.all db after).1 = .ok found ∧
    (tags.all db (Task.inTurn Call.perform db own s)).1 = .ok alone ∧
    found.map (fun t => (ρ t.id, t.content)) = alone.map (fun t => (t.id, t.content)) ∧
    (tags.count db after).1 = .ok (found.length : Int)
  comments : ∀ comments, Comments.ofInstance i = .ok comments → ∃ found alone,
    (comments.all db after).1 = .ok found ∧
    (comments.all db (Task.inTurn Call.perform db own s)).1 = .ok alone ∧
    found.map (fun c => (κ c.id, c.content)) = alone.map (fun c => (c.id, c.content)) ∧
    (comments.count db after).1 = .ok (found.length : Int) ∧
    ∀ status, (comments.withStatus status db after).1 =
      .ok (found.filter fun c => c.status == status)

theorem Beside.alone {i : Instance} {after : Session} {own : List Call} {ρ κ : Equiv.Perm Int}
    {a' : Annotations} (beside : Beside o db s start a own ρ κ a') (saved : i.owner? = some o)
    (held : a.Held after db.handle) : Alone i db s after (own.map (Call.rename ρ κ)) ρ κ where
  succeeds := beside.succeeds
  tags tags found := by
    obtain ⟨-, rfl⟩ := (Tags.ofInstance_eq_ok saved).1 found
    obtain ⟨_, all, rfl, -⟩ := (Tags.all_answers o held.tagOwners held.orders held.tags).outcome
    obtain ⟨_, count, rfl, -⟩ := (Tags.count_answers o held.tagOwners held.tags).outcome
    obtain ⟨_, alone, rfl, -⟩ := (Tags.all_answers o beside.held.tagOwners beside.held.orders
      beside.held.tags).outcome
    exact ⟨_, _, all, alone, beside.follows.tags.alike, count⟩
  comments comments found := by
    obtain ⟨-, rfl⟩ := (Comments.ofInstance_eq_ok saved).1 found
    obtain ⟨_, all, rfl, -⟩ := (Comments.all_answers o held.commentOwners held.comments).outcome
    obtain ⟨_, count, rfl, -⟩ := (Comments.count_answers o held.commentOwners held.comments).outcome
    obtain ⟨_, alone, rfl, -⟩ := (Comments.all_answers o beside.held.commentOwners
      beside.held.comments).outcome
    refine ⟨_, _, all, alone, beside.follows.comments.alike, count, fun status => ?_⟩
    obtain ⟨_, judged, rfl, -⟩ := (Comments.withStatus_answers o held.commentOwners status
      held.comments).outcome
    exact judged

/-- The call names a tag or a comment that is not its owner's. -/
def Call.NamesForeign (call : Call) (a : Annotations) : Prop :=
  match call.act with
  | .removeTag id => ∃ t ∈ a.tags, t.id = id ∧ call.owner.owner? ≠ some (Tag.records.owner t)
  | .setStatus id _ =>
    ∃ c ∈ a.comments, c.id = id ∧ call.owner.owner? ≠ some (Comment.records.owner c)
  | .addTag _ | .addComment .. => False

/-- A call that names what is not its owner's does nothing. -/
theorem Effect.refused {call : Call} {a' : Annotations} {done : Bool}
    (effect : Effect o a call.act done a') (saved : call.owner.owner? = some o)
    (foreign : call.NamesForeign a) (tags : (a.tags.map Tag.id).Nodup)
    (comments : (a.comments.map Comment.id).Nodup) : done = false := by
  obtain ⟨i, act⟩ := call
  have different {owner : Owner} (other : i.owner? ≠ some owner) : owner ≠ o := by
    rintro rfl
    exact other saved
  cases effect with
  | addTag | addComment => exact foreign.elim
  | removeTag =>
    obtain ⟨t, mem, rfl, other⟩ := foreign
    exact OwnedTable.not_any_isOwn tags mem (different other)
  | setStatus =>
    obtain ⟨c, mem, rfl, other⟩ := foreign
    exact OwnedTable.not_any_isOwn comments mem (different other)

/-- The tables as the calls of all owners have left them: every owner is told of its own calls
alone, and a call that names what is not its owner's answers false and leaves every table as it is.
-/
structure Apart (db : Database) (calls : List Call) (s : Session)
    (start a : Annotations) : Prop where
  held : a.Held (Task.inTurn Call.perform db calls s) db.handle
  alone : ∀ i o, i.owner? = some o → ∃ ρ κ : Equiv.Perm Int,
    (∀ id ≤ start.lastTag, ρ id = id) ∧ (∀ id ≤ start.lastComment, κ id = id) ∧
    Alone i db s (Task.inTurn Call.perform db calls s)
      ((ownCalls o db calls s).map (Call.rename ρ κ)) ρ κ
  refused : ∀ call : Call, call.Proper → call.NamesForeign a →
    (call.perform db (Task.inTurn Call.perform db calls s)).1 = .ok false ∧
    ∀ table rows last,
      (Task.inTurn Call.perform db calls s).engine.Shows db.handle table rows last →
      (call.perform db (Task.inTurn Call.perform db calls s)).2.engine.Shows db.handle
        table rows last

/-- **Owners do not interfere.** -/
theorem owners_apart (proper : ∀ call ∈ calls, call.Proper) (held : start.Held s db.handle)
    (room : start.Roomy (calls.length + 1)) : ∃ a, Apart db calls s start a := by
  have counted := held.tags.counted
  have countedComments := held.comments.counted
  obtain ⟨a, reached, within, each⟩ := run proper held
    ⟨room.tags.of_le (by omega) (by omega), room.comments.of_le (by omega) (by omega)⟩
  refine ⟨a, reached, fun i o saved => ?_, fun call own foreign => ?_⟩
  · obtain ⟨ρ, κ, a', beside, -⟩ := each o
    exact ⟨ρ, κ, beside.follows.tags.fixed, beside.follows.comments.fixed,
      beside.alone saved reached⟩
  · obtain ⟨o, saved, small⟩ := own.saved
    obtain ⟨done, answered, a', effect, after⟩ :=
      (Act.perform_answers own.enabled saved small reached
      (reached.roomy within room)).outcome
    obtain rfl := effect.refused saved foreign reached.tags.distinct reached.comments.distinct
    obtain rfl := effect.unmoved
    refine ⟨answered, fun table rows last shown => ?_⟩
    by_cases tags : table = Tag.records.name
    · subst tags
      obtain ⟨rfl, rfl⟩ := shown.unique reached.tags.shown
      exact after.tags.shown
    · by_cases comments : table = Comment.records.name
      · subst comments
        obtain ⟨rfl, rfl⟩ := shown.unique reached.comments.shown
        exact after.comments.shown
      · exact Act.spares own.enabled saved tags comments _ _ _ shown

end

/-! ### Posts and products -/

/-- An entity whose instances have tags and comments. -/
def annotated (name table : String) : Model :=
  .bare name table [] { taggable := true, commentable := true }

/-- A product takes away a tag that is a post's, and approves a comment of its own. -/
def meddling : List Call :=
  [⟨.saved (annotated "Post" "posts") 1, .addTag { name := "Lean" }⟩,
    ⟨.saved (annotated "Product" "products") 1, .addComment "Fine" "As described."⟩,
    ⟨.saved (annotated "Product" "products") 1, .removeTag 1⟩,
    ⟨.saved (annotated "Product" "products") 1, .setStatus 1 .approved⟩]

/-- Nothing is tagged and nothing is commented on at the start. -/
theorem held_start : Held {} Session.start Database.plain.handle := by
  have empty := Session.start_shows
  exact ⟨.empty (empty _) (by decide) (by decide), .empty (empty _) (by decide) (by decide),
    nofun, nofun, nofun⟩

theorem owners_apart_posts :
    (∀ call ∈ meddling, call.Proper) ∧ Held {} Session.start Database.plain.handle ∧
    ∃ a, Apart .plain meddling Session.start {} a := by
  have proper : ∀ call ∈ meddling, call.Proper := by
    have small : Binary64.IsSmall 1 := by decide
    intro call mem
    simp only [meddling, List.mem_cons, List.not_mem_nil, or_false] at mem
    obtain rfl | rfl | rfl | rfl := mem
    all_goals exact ⟨rfl, _, Instance.owner?_saved rfl (by decide), small⟩
  exact ⟨proper, held_start, owners_apart proper held_start ⟨by decide, by decide⟩⟩

/-- A tag is added to a post whose key has more than 53 bits. -/
def taggingLarge : List Call :=
  [⟨.saved (annotated "Post" "posts") 9007199254740992, .addTag { name := "Lean" }⟩]

/-- The next post has the tag too, although it has made no call. -/
theorem not_owners_apart_large :
    (∀ call ∈ taggingLarge, call.act.enabled call.owner.model = true ∧
      ∃ owner, call.owner.owner? = some owner) ∧
    Held {} Session.start Database.plain.handle ∧
    ¬∃ a, Apart .plain taggingLarge Session.start {} a := by
  refine ⟨?_, held_start, ?_⟩
  · intro call mem
    rw [List.mem_singleton.1 mem]
    exact ⟨rfl, _, Instance.owner?_saved rfl (by decide)⟩
  · rintro ⟨a, told⟩
    let next : Instance := .saved (annotated "Post" "posts") 9007199254740993
    have saved : next.owner? = some ⟨"posts", 9007199254740993⟩ :=
      Instance.owner?_saved rfl (by decide)
    obtain ⟨ρ, κ, -, -, alone⟩ := told.alone next _ saved
    have none : ownCalls ⟨"posts", 9007199254740993⟩ .plain taggingLarge Session.start = [] :=
      List.isEmpty_iff.1 (by decide +kernel)
    rw [none] at alone
    obtain ⟨found, own, -, answered, same, counted⟩ :=
      alone.tags _ ((Tags.ofInstance_eq_ok saved).2 ⟨rfl, rfl⟩)
    -- The store of the start has no tags, so there must be none after the call.
    have untagged : ((Tags.ofOwner ⟨"posts", 9007199254740993⟩).all .plain
        Session.start).1.toOption = some [] := by decide +kernel
    obtain rfl : [] = own :=
      Option.some.inj (untagged.symm.trans (congrArg Except.toOption answered))
    rw [List.map_nil, List.map_eq_nil_iff] at same
    subst same
    exact absurd (congrArg Except.toOption counted) (by decide +kernel)

end Annotations

end EntityStore
