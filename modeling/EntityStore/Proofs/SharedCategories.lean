import EntityStore.Proofs.Calls
import EntityStore.Proofs.Records
import EntityStore.Proofs.Terminals

/-!
# Categories are shared, links are not

The categories of all owners stand in one table and the links to them in another, and neither has a
constraint. A call looks for a category before it makes one and for a link before it adds one, so
names and links stay apart, and a link stands as long as the last call of its owner about its
category was an addition: main result `Categories.shared`. Owners whose keys have more than 53 bits
may be taken for one another (`Categories.not_shared_large`).
-/

namespace EntityStore

namespace Categories

/-! ### Calls of one owner -/

/-- The categories of an owner. -/
def ofOwner (owner : Owner) : Categories :=
  ⟨StoredLink.records.rows owner⟩

theorem ofInstance_eq_ok {i : Instance} {owner : Owner} (saved : i.owner? = some owner)
    {categories : Categories} : Categories.ofInstance i = .ok categories ↔
      i.model.traits.categorizable = true ∧ categories = ofOwner owner :=
  OwnedRows.traited_eq_ok saved Categories.mk categories

/-- The owner is linked to the category of a key. -/
def linksTo (owner : Owner) (category : Int) (l : StoredLink) : Bool :=
  l.owner == owner && l.category == category

section Operations

variable {db : Database} {s : Session} {owner : Owner} {cats : List Category}
  {links : List StoredLink} {lastCategory lastLink : Int}

/-- What holds of the two tables between calls: names and links are apart, every link leads to a
category, and the keys of the owners have no more than 53 bits. -/
structure Sound (cats : List Category) (links : List StoredLink) : Prop where
  names : (cats.map Category.name).Nodup
  apart : (links.map fun l => (l.owner, l.category)).Nodup
  known : ∀ l ∈ links, ∃ c ∈ cats, c.id = l.category
  owners : ∀ l ∈ links, Binary64.IsSmall l.owner.id

/-- The two tables of a session. -/
structure Stored (s : Session) (handle : Handle) (cats : List Category) (links : List StoredLink)
    (lastCategory lastLink : Int) : Prop where
  categories : Category.records.Holds s.engine handle cats lastCategory
  links : StoredLink.records.Holds s.engine handle links lastLink

theorem Stored.congr {s' : Session} (stored : Stored s db.handle cats links lastCategory lastLink)
    (same : s'.engine = s.engine) : Stored s' db.handle cats links lastCategory lastLink :=
  ⟨stored.categories.congr same, stored.links.congr same⟩

theorem Sound.category_fits (sound : Sound cats links)
    (stored : Stored s db.handle cats links lastCategory lastLink)
    {l : StoredLink} (mem : l ∈ links) :
    fitsInt64 l.category = true := by
  obtain ⟨c, hc, same⟩ := sound.known l mem
  exact same ▸ stored.categories.id_fits hc

/-- The links of an owner are read in the order of the rows. -/
theorem links_answers (sound : Sound cats links)
    (stored : Stored s db.handle cats links lastCategory lastLink) :
    (ofOwner owner).links.Answers db s fun answer s' =>
      answer = (links.filter fun l => l.owner == owner).map StoredLink.link ∧
        s'.engine = s.engine :=
  StoredLink.records.fetch stored.links
    (StoredLink.records.decides_conditions sound.owners owner) fun _ mem =>
    StoredLink.decode_toRow (stored.links.id_fits mem) (sound.category_fits stored mem)

/-- Keys that are distinct are kept as they are. -/
theorem foldl_distinct (items : List CategoryLink) (done : List Int)
    (distinct : (done ++ items.map CategoryLink.category).Nodup) :
    items.foldl (fun done link =>
      if done.contains link.category then done else done ++ [link.category]) done =
        done ++ items.map CategoryLink.category := by
  induction items generalizing done with
  | nil => rw [List.foldl_nil, List.map_nil, List.append_nil]
  | cons link rest ih =>
    have new : done.contains link.category = false := by
      rw [List.contains_eq_mem, decide_eq_false_iff_not]
      intro old
      exact (List.disjoint_of_nodup_append distinct) old (by simp)
    rw [List.map_cons, List.append_cons] at distinct ⊢
    rw [List.foldl_cons, new]
    exact ih _ distinct

/-- The links of an owner lead to different categories. -/
theorem Sound.nodup_own (sound : Sound cats links) (owner : Owner) :
    ((links.filter fun l => l.owner == owner).map StoredLink.category).Nodup := by
  have own := sound.apart.sublist (List.filter_sublist (p := fun l => l.owner == owner) (l := links)
    |>.map fun l => (l.owner, l.category))
  refine List.pairwise_map.2 ((List.pairwise_map.1 own).imp_of_mem ?_)
  intro l l' mem mem' different same
  have owned := beq_iff_eq.1 (List.mem_filter.1 mem).2
  have owned' := beq_iff_eq.1 (List.mem_filter.1 mem').2
  exact different (by rw [owned, owned', same])

theorem keys_answers (sound : Sound cats links)
    (stored : Stored s db.handle cats links lastCategory lastLink) :
    (ofOwner owner).keys.Answers db s fun answer s' =>
      answer = (links.filter fun l => l.owner == owner).map StoredLink.category ∧
        s'.engine = s.engine := by
  refine Task.Answers.bind (links_answers sound stored) ?_
  rintro found s' ⟨rfl, same⟩
  refine Task.Answers.pure ⟨?_, same⟩
  have distinct := sound.nodup_own owner
  have read : ((links.filter fun l => l.owner == owner).map StoredLink.link).map
      CategoryLink.category = (links.filter fun l => l.owner == owner).map StoredLink.category := by
    rw [List.map_map]
    rfl
  rw [foldl_distinct _ [] (by rwa [List.nil_append, read]), List.nil_append, read]

theorem contains_keys (links : List StoredLink) (owner : Owner) (category : Int) :
    ((links.filter fun l => l.owner == owner).map StoredLink.category).contains category =
      links.any (linksTo owner category) := by
  rw [Bool.eq_iff_iff, List.contains_iff_mem, List.mem_map, List.any_eq_true]
  simp only [List.mem_filter, linksTo, Bool.and_eq_true, beq_iff_eq, and_assoc]

/-- Being one of several keys is told of categories by comparing their keys. -/
theorem decides_isIn (stored : Stored s db.handle cats links lastCategory lastLink)
    (keys : Binary64.IsSmall lastCategory) (wanted : List Int) :
    Category.records.Decides [(.and, .isIn "id" (wanted.map Value.int))] cats
      fun c => wanted.contains c.id := by
  refine Table.decides_all rfl ?_
  intro store c mem
  have small : Binary64.IsSmall c.id := stored.categories.id_small keys mem
  have shown : (Scope.ofRow Category.table c.toRow).lookup "id" = .int c.id := by
    rw [Scope.lookup_ofRow _ _ (by decide)]
    rfl
  change (store.satisfies (.ofRow Category.table c.toRow) _ && true) = _
  have equal (key : Int) : (Value.int c.id).looseEq (.int key) = (c.id == key) := by
    rw [Value.looseEq_int_small small]
    rfl
  have known : (Value.int c.id).isNull = false := rfl
  rw [Bool.and_true, Store.satisfies, shown, known, List.any_map, List.contains_eq_any_beq]
  simp only [Function.comp_def, equal, Bool.not_false, Bool.true_and]

/-- The categories of an owner are those that it is linked to, in the order of the categories. -/
theorem all_answers (owner : Owner) (keys : Binary64.IsSmall lastCategory)
    (sound : Sound cats links) (stored : Stored s db.handle cats links lastCategory lastLink) :
    (ofOwner owner).all.Answers db s fun answer s' =>
      answer = (cats.filter fun c => links.any (linksTo owner c.id)) ∧ s'.engine = s.engine := by
  refine Task.Answers.bind (keys_answers sound stored) ?_
  rintro wanted s' ⟨rfl, same⟩
  have passes (c : Category) := contains_keys links owner c.id
  generalize (links.filter fun l => l.owner == owner).map StoredLink.category = wanted at passes
  simp only [← passes]
  cases wanted with
  | nil =>
    refine Task.Answers.pure ⟨?_, same⟩
    simp
  | cons key rest =>
    have after := (stored.congr same).categories
    have reads : ∀ c ∈ cats, (Category.records.row c).decode Category.read = .ok (id c) :=
      fun c mem => Category.decode_toRow (after.id_fits mem)
    have fetched := Category.records.fetch after
      (decides_isIn (stored.congr same) keys (key :: rest)) reads
    exact fetched.mono fun answer s'' h => ⟨by rw [h.1, List.map_id], h.2.trans same⟩

/-- As many categories are counted as are answered. -/
theorem count_answers (owner : Owner) (sound : Sound cats links)
    (stored : Stored s db.handle cats links lastCategory lastLink) :
    (ofOwner owner).count.Answers db s fun answer s' =>
      answer = ((cats.filter fun c => links.any (linksTo owner c.id)).length : Int) ∧
        s'.engine = s.engine := by
  refine Task.Answers.bind (keys_answers sound stored) ?_
  rintro wanted s' ⟨rfl, same⟩
  refine Task.Answers.pure ⟨?_, same⟩
  -- The keys that are wanted are the keys of the categories that are answered.
  have distinct : (cats.map Category.id).Nodup := stored.categories.distinct
  have perm : ((links.filter fun l => l.owner == owner).map StoredLink.category).Perm
      ((cats.filter fun c => links.any (linksTo owner c.id)).map Category.id) := by
    rw [List.perm_ext_iff_of_nodup (sound.nodup_own owner)
      (distinct.sublist (List.filter_sublist.map _))]
    intro key
    rw [← List.contains_iff_mem, contains_keys, List.mem_map]
    constructor
    · intro linked
      obtain ⟨l, mem, leads⟩ := List.any_eq_true.1 linked
      obtain ⟨c, hc, same⟩ := sound.known l mem
      have own : l.category = key := by
        rw [linksTo, Bool.and_eq_true] at leads
        exact beq_iff_eq.1 leads.2
      refine ⟨c, List.mem_filter.2 ⟨hc, ?_⟩, same.trans own⟩
      rwa [same, own]
    · rintro ⟨c, hc, rfl⟩
      exact (List.mem_filter.1 hc).2
  rw [perm.length_eq, List.length_map]

/-- The category of a name, and the categories once it is there: it was there before, or it is made
under the next key. -/
inductive Named (cats : List Category) (label : Label) (next : Int) :
    Category → List Category → Prop
  | known {c : Category} (mem : c ∈ cats) (name : c.name = label.name) :
      Named cats label next c cats
  | made (new : ∀ c ∈ cats, c.name ≠ label.name) (stamp : String) :
    Named cats label next (.made label next stamp) (cats ++ [.made label next stamp])

theorem Named.sound {label : Label} {next : Int} {c : Category} {cats' : List Category}
    (named : Named cats label next c cats') (sound : Sound cats links) : Sound cats' links := by
  cases named with
  | known => exact sound
  | made new stamp =>
    refine ⟨?_, sound.apart, fun l mem => ?_, sound.owners⟩
    · exact List.nodup_map_concat sound.names new
    · obtain ⟨c, hc, same⟩ := sound.known l mem
      exact ⟨c, List.mem_append_left _ hc, same⟩

theorem Named.subset {label : Label} {next : Int} {c : Category} {cats' : List Category}
    (named : Named cats label next c cats') : cats ⊆ cats' := by
  cases named with
  | known => exact List.Subset.refl cats
  | made new stamp => exact List.subset_append_left _ _

theorem Named.mem {label : Label} {next : Int} {c : Category} {cats' : List Category}
    (named : Named cats label next c cats') : c ∈ cats' ∧ c.name = label.name := by
  cases named with
  | known mem name => exact ⟨mem, name⟩
  | made new stamp => exact ⟨by simp, rfl⟩

/-- The category of a name is found, or it is made under the next key. -/
theorem findOrMake_answers (label : Label) (keys : Binary64.IsSmall (lastCategory + 1))
    (stored : Stored s db.handle cats links lastCategory lastLink) :
    (Categories.findOrMake label).Answers db s fun c t => ∃ cats' last', last' ≤ lastCategory + 1 ∧
      Named cats label (lastCategory + 1) c cats' ∧
      Stored t db.handle cats' links last' lastLink := by
  have decides : Category.records.Decides [(.and, .compare "name" .eq (.text label.name))] cats
      fun c => c.name == label.name := by
    refine Table.decides_all rfl ?_
    intro store c _
    change (store.satisfies (.ofRow Category.table c.toRow) _ && true) = _
    rw [Bool.and_true, store.satisfies_compare _ _ (by decide)]
    exact (Value.looseEq_text c.name label.name).trans rfl
  have fits := fitsInt64_of_small keys
  have room := le_maxInt64_of_small keys
  refine Task.Answers.bind (Category.records.selectFirst stored.categories decides) ?_
  rintro found t ⟨rfl, same⟩
  have after := stored.congr same
  cases first : cats.find? fun c => c.name == label.name with
  | some c =>
    have mem := List.mem_of_find?_eq_some first
    have name : c.name = label.name := by simpa using List.find?_some first
    exact Task.Answers.ofExcept (Category.decode_toRow (stored.categories.id_fits mem))
      ⟨cats, lastCategory, by omega, .known mem name, after⟩
  | none =>
    have new : ∀ c ∈ cats, c.name ≠ label.name := by
      intro c mem name
      exact List.find?_eq_none.1 first c mem (by simp [name])
    have keyless : label.toRow.get? "id" = none := by simp [Label.get?_toRow]
    have inserted := Category.records.insertStamped after.categories
      (Row.stamped_keyless keyless _) room
      (Category.label_stamped label (lastCategory + 1) t.clock.text)
    refine Task.Answers.bind (inserted.sparing (Task.Spares.insertStamped (by decide) _)
      after.links.shown) ?_
    rintro row t' ⟨⟨categories, answered⟩, links⟩
    rw [answered keys]
    exact Task.Answers.ofExcept (Category.decode_toRow fits)
      ⟨_, _, Int.le_refl _, .made new _, categories, { stored.links with shown := links }⟩

/-- The links once an owner is linked to a category: one more, unless there is one already. -/
inductive Linking (links : List StoredLink) (owner : Owner) (category next : Int) :
    List StoredLink → Prop
  | already (linked : links.any (linksTo owner category) = true) :
    Linking links owner category next links
  | added (new : links.any (linksTo owner category) = false) (stamp : String) :
    Linking links owner category next (links ++ [⟨next, category, owner, stamp⟩])

/-- Adding a category finds or makes it, and links the owner to it unless it is linked. -/
theorem add_answers (owner : Owner) (label : Label)
    (keys : Binary64.IsSmall (lastCategory + 1)) (room : lastLink + 1 ≤ maxInt64)
    (sound : Sound cats links) (stored : Stored s db.handle cats links lastCategory lastLink) :
    ((ofOwner owner).add label).Answers db s fun c t => ∃ cats' links' last' lastLink',
      last' ≤ lastCategory + 1 ∧ lastLink' ≤ lastLink + 1 ∧
      Named cats label (lastCategory + 1) c cats' ∧ Linking links owner c.id (lastLink + 1) links' ∧
      Stored t db.handle cats' links' last' lastLink' := by
  refine Task.Answers.bind (findOrMake_answers label keys stored) ?_
  rintro c t ⟨cats', last', bound, named, stored'⟩
  refine Task.Answers.bind (keys_answers (named.sound sound) stored') ?_
  rintro wanted t' ⟨rfl, same⟩
  rw [contains_keys]
  have after := stored'.congr same
  cases linked : links.any (linksTo owner c.id) with
  | true =>
    exact Task.Answers.pure
      ⟨cats', links, last', lastLink, bound, by omega, named, .already linked, after⟩
  | false =>
    have inserted := StoredLink.records.insertStamped after.links
      (Row.stamped_keyless (StoredLink.get?_newRow c.id owner (by decide)) _) room
      (StoredLink.newRow_stamped (lastLink + 1) c.id owner t'.clock.text)
    refine Task.Answers.bind (inserted.sparing (Task.Spares.insertStamped (by decide) _)
      after.categories.shown) ?_
    rintro row t'' ⟨⟨linksHold, -⟩, categories⟩
    exact Task.Answers.pure ⟨cats', _, last', _, bound, Int.le_refl _, named, .added linked _,
      { after.categories with shown := categories }, linksHold⟩

/-- Of the links of an owner at most one leads to a category. -/
theorem Sound.linked_cases (sound : Sound cats links) (owner : Owner) (category : Int) :
    links.filter (linksTo owner category) = [] ∨
      ∃ l ∈ links, linksTo owner category l = true ∧
        links.filter (linksTo owner category) = [l] := by
  have distinct : (links.filter (linksTo owner category)).Nodup :=
    (List.Nodup.of_map _ sound.apart).filter _
  cases found : links.filter (linksTo owner category) with
  | nil => exact .inl rfl
  | cons l rest =>
    have passing (l' : StoredLink) (mem : l' ∈ l :: rest) :
        l' ∈ links ∧ linksTo owner category l' = true ∧
          (l'.owner, l'.category) = (owner, category) := by
      obtain ⟨there, leads⟩ := List.mem_filter.1 (found ▸ mem)
      have both := leads
      rw [linksTo, Bool.and_eq_true, beq_iff_eq, beq_iff_eq] at both
      exact ⟨there, leads, by rw [both.1, both.2]⟩
    obtain ⟨there, passes, leads⟩ := passing l List.mem_cons_self
    cases rest with
    | nil => exact .inr ⟨l, there, passes, rfl⟩
    | cons l' rest' =>
      obtain ⟨there', -, leads'⟩ := passing l' (by simp)
      have same := List.inj_on_of_nodup_map sound.apart there there' (leads.trans leads'.symm)
      rw [found, same] at distinct
      simp at distinct

/-- Deleting the link of an owner to a category by its key deletes this link and no other. -/
theorem unlink_answers {id : Int} (keys : Binary64.IsSmall lastLink) (sound : Sound cats links)
    (stored : Stored s db.handle cats links lastCategory lastLink)
    {l : StoredLink} (mem : l ∈ links) (passes : linksTo owner id l = true)
    (one : links.filter (linksTo owner id) = [l]) :
    ((ofOwner owner).rows.delete l.id).Answers db s fun removed t => removed = 1 ∧
      Stored t db.handle cats (links.filter fun l => !linksTo owner id l) lastCategory
        lastLink := by
  have own : ∀ l' ∈ links, (l'.id == l.id && l'.owner == owner) = linksTo owner id l' := by
    intro l' mem'
    rw [Bool.eq_iff_iff]
    constructor
    · intro both
      have key : l'.id = l.id := by simpa using (Bool.and_eq_true_iff.1 both).1
      rwa [List.inj_on_of_nodup_map stored.links.distinct mem' mem key]
    · intro leads
      have only : l' ∈ links.filter (linksTo owner id) := List.mem_filter.2 ⟨mem', leads⟩
      rw [one, List.mem_singleton] at only
      rw [linksTo, Bool.and_eq_true] at passes
      simp [only, passes.1]
  have decides : StoredLink.records.Decides
      ((StoredLink.records.rows owner).keyConditions l.id) links (linksTo owner id) :=
    fun store l' mem' => (StoredLink.records.decides_key sound.owners
      (fun _ mem => stored.links.id_small keys mem) owner l.id store l' mem').trans (own l' mem')
  have elsewhere : Category.records.name ≠ StoredLink.records.name := by decide
  refine ((StoredLink.records.delete stored.links decides).sparing (Task.Spares.delete elsewhere)
    stored.categories.shown).mono ?_
  rintro removed t ⟨⟨rfl, links⟩, categories⟩
  refine ⟨?_, { stored.categories with shown := categories }, links⟩
  rw [List.countP_eq_length_filter, one, List.length_singleton]

/-- Removing a category removes the link of the owner to it, and answers whether there was one. -/
theorem remove_answers (owner : Owner) (id : Int) (keys : Binary64.IsSmall lastLink)
    (sound : Sound cats links)
    (stored : Stored s db.handle cats links lastCategory lastLink) :
    ((ofOwner owner).remove id).Answers db s fun answer t =>
      answer = links.any (linksTo owner id) ∧
        Stored t db.handle cats (links.filter fun l => !linksTo owner id l) lastCategory
          lastLink := by
  refine Task.Answers.bind (links_answers sound stored) ?_
  rintro found t ⟨rfl, same⟩
  have after := stored.congr same
  have wanted : ((links.filter fun l => l.owner == owner).map StoredLink.link).filter
      (·.category == id) = (links.filter (linksTo owner id)).map StoredLink.link := by
    rw [List.filter_map, List.filter_filter]
    refine congrArg _ (List.filter_congr fun l _ => ?_)
    rw [linksTo, Bool.and_comm]
    rfl
  rw [wanted]
  obtain none | ⟨l, mem, passes, one⟩ := sound.linked_cases owner id
  · have absent : ∀ l ∈ links, linksTo owner id l = false := by
      intro l mem
      exact Bool.eq_false_iff.2 (List.filter_eq_nil_iff.1 none l mem)
    rw [none]
    refine Task.Answers.pure ⟨?_, ?_⟩
    · exact (List.any_eq_false.2 fun l mem => by simp [absent l mem]).symm
    · rwa [List.filter_eq_self.2 fun l mem => by simp [absent l mem]]
  · have each : ((([l].map StoredLink.link).mapM fun link =>
        (ofOwner owner).rows.delete link.id)).Answers db t fun removed t => removed = [1] ∧
          Stored t db.handle cats (links.filter fun l => !linksTo owner id l) lastCategory
            lastLink := by
      rw [List.map_singleton, List.mapM_cons, List.mapM_nil]
      refine Task.Answers.bind (unlink_answers keys sound after mem passes one) ?_
      rintro removed t' ⟨rfl, stored'⟩
      exact Task.Answers.pure ⟨rfl, stored'⟩
    rw [one]
    refine Task.Answers.bind each ?_
    rintro removed t' ⟨rfl, stored'⟩
    exact Task.Answers.pure ⟨(List.any_eq_true.2 ⟨l, mem, passes⟩).symm, stored'⟩

end Operations

/-! ### What the tables tell of the calls -/

inductive Act where
  | add (label : Label)
  | remove (id : Int)

/-- A call on the categories of an instance. -/
structure Call where
  owner : Instance
  act : Act

namespace Call

def perform (call : Call) : Task Unit := do
  let categories ← Work.ofExcept (Categories.ofInstance call.owner)
  match call.act with
  | .add label => do
    let _ ← categories.add label
    return ()
  | .remove id => do
    let _ ← categories.remove id
    return ()

/-- The call is about an owner and a category, which is added by its name and removed by its key. -/
def concerns (owner : Owner) (c : Category) (call : Call) : Bool :=
  call.owner.owner? == some owner &&
    match call.act with
    | .add label => label.name == c.name
    | .remove id => id == c.id

def sets (call : Call) : Bool :=
  match call.act with
  | .add _ => true
  | .remove _ => false

/-- The call is made by a saved instance of a categorizable entity, and the key of the instance has
no more than 53 bits. -/
structure Proper (call : Call) : Prop where
  categorizable : call.owner.model.traits.categorizable = true
  saved : ∃ owner, call.owner.owner? = some owner ∧ Binary64.IsSmall owner.id

theorem perform_ok {call : Call} {owner : Owner}
    (categorizable : call.owner.model.traits.categorizable = true)
    (saved : call.owner.owner? = some owner) :
    call.perform = match call.act with
      | .add label => do
        let _ ← (ofOwner owner).add label
        return ()
      | .remove id => do
        let _ ← (ofOwner owner).remove id
        return () := by
  unfold perform
  rw [(ofInstance_eq_ok saved).2 ⟨categorizable, rfl⟩, Work.ok_bind]

theorem concerns_add {call : Call} {owner : Owner} (saved : call.owner.owner? = some owner)
    {label : Label} (act : call.act = .add label) (owner' : Owner) (c : Category) :
    call.concerns owner' c = (owner == owner' && label.name == c.name) := by
  rw [concerns, saved, act]
  rfl

theorem concerns_remove {call : Call} {owner : Owner} (saved : call.owner.owner? = some owner)
    {id : Int} (act : call.act = .remove id) (owner' : Owner) (c : Category) :
    call.concerns owner' c = (owner == owner' && id == c.id) := by
  rw [concerns, saved, act]
  rfl

end Call

/-- The last call of the owner about the category has added it. -/
def Linked (owner : Owner) (c : Category) (calls : List Call) : Bool :=
  Stands (Call.concerns owner c) Call.sets calls

/-- The tables tell what the calls have come to: an owner is linked to a category when its last call
about it was an addition, and every name that was added has its category. -/
structure Tally (calls : List Call) (cats : List Category) (links : List StoredLink) : Prop
    extends Sound cats links where
  linked : ∀ owner, ∀ c ∈ cats, links.any (linksTo owner c.id) = Linked owner c calls
  added : ∀ call ∈ calls, ∀ label, call.act = .add label → ∃ c ∈ cats, c.name = label.name

namespace Tally

variable {calls : List Call} {cats cats' : List Category} {links links' : List StoredLink}
  {call : Call} {owner : Owner} {c : Category}

theorem nil : Tally [] [] [] where
  names := List.nodup_nil
  apart := List.nodup_nil
  known _ mem := nomatch mem
  owners _ mem := nomatch mem
  linked _ _ mem := nomatch mem
  added _ mem := nomatch mem

/-- A category that is made is linked to nobody: no call has added its name, and no link can lead to
a key that was not drawn before. -/
theorem named (tally : Tally calls cats links) {label : Label} {next : Int}
    (fresh : ∀ c ∈ cats, c.id ≠ next) (named : Named cats label next c cats') :
    Tally calls cats' links := by
  refine { toSound := named.sound tally.toSound, linked := ?_, added := ?_ }
  · cases named with
    | known => exact tally.linked
    | made new stamp =>
      intro owner c mem
      rcases List.mem_append.1 mem with mem | mem
      · exact tally.linked owner c mem
      · rw [List.mem_singleton.1 mem]
        have unlinked : links.any (linksTo owner next) = false := by
          refine List.any_eq_false.2 fun l mem leads => ?_
          obtain ⟨c, hc, same⟩ := tally.known l mem
          rw [linksTo, Bool.and_eq_true, beq_iff_eq, beq_iff_eq] at leads
          exact fresh c hc (same.trans leads.2)
        refine unlinked.trans (Eq.symm (stands_eq_false fun call mem about => ?_))
        cases act : call.act with
        | remove id => rw [Call.sets, act]
        | add label' =>
          obtain ⟨c, hc, name⟩ := tally.added call mem label' act
          rw [Call.concerns, act, Bool.and_eq_true] at about
          have same : label'.name = label.name := by simpa [Category.made] using about.2
          exact absurd (name.trans same) (new c hc)
  · intro call mem label' act
    obtain ⟨c, hc, name⟩ := tally.added call mem label' act
    exact ⟨c, named.subset hc, name⟩

/-- Once an owner is linked to a category, it stands. -/
theorem add (tally : Tally calls cats links) (distinct : (cats.map Category.id).Nodup)
    (saved : call.owner.owner? = some owner) (small : Binary64.IsSmall owner.id) {label : Label}
    (act : call.act = .add label) (mem : c ∈ cats) (name : c.name = label.name) {next : Int}
    (linking : Linking links owner c.id next links') : Tally (calls ++ [call]) cats links' where
  names := tally.names
  apart := by
    cases linking with
    | already => exact tally.apart
    | added new stamp =>
      refine List.nodup_map_concat tally.apart fun l hl same => ?_
      rw [Prod.mk.injEq] at same
      have unlinked := List.any_eq_false.1 new l hl
      simp [linksTo, same] at unlinked
  known l hl := by
    cases linking with
    | already => exact tally.known l hl
    | added new stamp =>
      rcases List.mem_append.1 hl with hl | hl
      · exact tally.known l hl
      · rw [List.mem_singleton.1 hl]
        exact ⟨c, mem, rfl⟩
  owners l hl := by
    cases linking with
    | already => exact tally.owners l hl
    | added new stamp =>
      rcases List.mem_append.1 hl with hl | hl
      · exact tally.owners l hl
      · rwa [List.mem_singleton.1 hl]
  linked owner' c' mem' := by
    have sets : call.sets = true := by rw [Call.sets, act]
    have about : call.concerns owner' c' = (owner == owner' && c.id == c'.id) := by
      rw [Call.concerns_add saved act, ← name, Bool.eq_iff_iff]
      simp only [Bool.and_eq_true, beq_iff_eq]
      refine and_congr_right fun _ => ⟨fun same => ?_, fun same => ?_⟩
      · rw [List.inj_on_of_nodup_map tally.names mem mem' same]
      · rw [List.inj_on_of_nodup_map distinct mem mem' same]
    rw [Linked, stands_append, about, sets, ← Linked, ← tally.linked owner' c' mem']
    cases linking with
    | already linked =>
      split
      · next own =>
        rw [Bool.and_eq_true, beq_iff_eq, beq_iff_eq] at own
        rw [← own.1, ← own.2, linked]
      · rfl
    | added new stamp =>
      rw [List.any_append, List.any_cons, List.any_nil, Bool.or_false, linksTo]
      split
      · next own => rw [own, Bool.or_true]
      · next other => rw [Bool.eq_false_iff.2 other, Bool.or_false]
  added call' hcall label' act' := by
    rcases List.mem_append.1 hcall with hcall | hcall
    · exact tally.added call' hcall label' act'
    · rw [List.mem_singleton.1 hcall, act] at act'
      cases act'
      exact ⟨c, mem, name⟩

/-- Once the link of an owner to a category is removed, it is gone, and the other links stand. -/
theorem remove (tally : Tally calls cats links) (saved : call.owner.owner? = some owner) {id : Int}
    (act : call.act = .remove id) :
    Tally (calls ++ [call]) cats (links.filter fun l => !linksTo owner id l) where
  names := tally.names
  apart := tally.apart.sublist (List.filter_sublist.map _)
  known l mem := tally.known l (List.mem_filter.1 mem).1
  owners l mem := tally.owners l (List.mem_filter.1 mem).1
  linked owner' c mem := by
    have clears : call.sets = false := by rw [Call.sets, act]
    rw [Linked, stands_append, Call.concerns_remove saved act, clears, ← Linked,
      ← tally.linked owner' c mem, List.any_filter]
    by_cases own : (owner == owner' && id == c.id) = true
    · rw [if_pos own]
      rw [Bool.and_eq_true, beq_iff_eq, beq_iff_eq] at own
      refine List.any_eq_false.2 fun l _ => ?_
      rw [own.1, own.2, Bool.not_and_self]
      exact Bool.false_ne_true
    · rw [if_neg own]
      refine any_congr_of_mem fun l _ => ?_
      rw [Bool.eq_iff_iff]
      simp only [linksTo, Bool.and_eq_true, Bool.not_eq_true', Bool.and_eq_false_imp, beq_iff_eq,
        beq_eq_false_iff_ne, ne_eq, and_iff_right_iff_imp] at own ⊢
      rintro ⟨rfl, leads⟩ same key
      exact own ⟨same.symm, key.symm.trans leads⟩
  added call' hcall label act' := by
    rcases List.mem_append.1 hcall with hcall | hcall
    · exact tally.added call' hcall label act'
    · rw [List.mem_singleton.1 hcall, act] at act'
      cases act'

end Tally

/-! ### Runs -/

variable {db : Database} {calls : List Call} {s : Session} {cats : List Category}
  {links : List StoredLink} {lastCategory lastLink : Int}

/-- What one call does to the two tables. -/
theorem step {call : Call} (proper : call.Proper)
    (stored : Stored s db.handle cats links lastCategory lastLink) (tally : Tally calls cats links)
    (room : Binary64.IsSmall (lastCategory + 1)) (roomLink : Binary64.IsSmall (lastLink + 1)) :
    ∃ cats' links' last' lastLink', last' ≤ lastCategory + 1 ∧ lastLink' ≤ lastLink + 1 ∧
      Stored (call.perform db s).2 db.handle cats' links' last' lastLink' ∧
      Tally (calls ++ [call]) cats' links' := by
  obtain ⟨owner, saved, small⟩ := proper.saved
  rw [Call.perform_ok proper.categorizable saved]
  cases act : call.act with
  | add label =>
    have answers : ((ofOwner owner).add label).Answers db s fun _ t =>
        ∃ c cats' links' last' lastLink', last' ≤ lastCategory + 1 ∧ lastLink' ≤ lastLink + 1 ∧
          Named cats label (lastCategory + 1) c cats' ∧
          Linking links owner c.id (lastLink + 1) links' ∧
          Stored t db.handle cats' links' last' lastLink' :=
      (add_answers owner label room (le_maxInt64_of_small roomLink) tally.toSound stored).mono
        fun c _ h => ⟨c, h⟩
    obtain ⟨-, -, c, cats', links', last', lastLink', bound, boundLink, named, linking, after⟩ :=
      answers.ignoring.outcome
    have fresh : ∀ c ∈ cats, c.id ≠ lastCategory + 1 := by
      intro c mem same
      have : c.id ≤ lastCategory := (stored.categories.keys c mem).2
      omega
    obtain ⟨mem, name⟩ := named.mem
    exact ⟨cats', links', last', lastLink', bound, boundLink, after,
      (tally.named fresh named).add after.categories.distinct saved small act mem name linking⟩
  | remove id =>
    have keys : Binary64.IsSmall lastLink := roomLink.of_le stored.links.counted (by omega)
    have removed := (remove_answers owner id keys tally.toSound stored).mono fun _ _ h => h.2
    obtain ⟨-, -, after⟩ := removed.ignoring.outcome
    exact ⟨cats, _, lastCategory, lastLink, by omega, by omega, after, tally.remove saved act⟩

/-- What a run of calls leaves in the two tables. -/
theorem run (proper : ∀ call ∈ calls, call.Proper)
    (empty : s.engine.Shows db.handle Category.records.name [] lastCategory)
    (emptyLinks : s.engine.Shows db.handle StoredLink.records.name [] lastLink)
    (counted : 0 ≤ lastCategory) (countedLinks : 0 ≤ lastLink)
    (room : Binary64.IsSmall (lastCategory + calls.length))
    (roomLink : Binary64.IsSmall (lastLink + calls.length)) :
    ∃ cats links last' lastLink', last' ≤ lastCategory + calls.length ∧
      lastLink' ≤ lastLink + calls.length ∧
      Stored (Task.inTurn Call.perform db calls s) db.handle cats links last' lastLink' ∧
      Tally calls cats links := by
  induction calls using List.reverseRecOn with
  | nil =>
    rw [List.length_nil, Int.natCast_zero, Int.add_zero] at room roomLink
    exact ⟨[], [], lastCategory, lastLink, by simp, by simp,
      ⟨.empty empty counted (le_maxInt64_of_small room),
      .empty emptyLinks countedLinks (le_maxInt64_of_small roomLink)⟩, .nil⟩
  | append_singleton before call ih =>
    rw [List.length_append, List.length_singleton] at room roomLink ⊢
    obtain ⟨cats, links, reached, reachedLink, bound, boundLink, stored, tally⟩ :=
      ih (fun call mem => proper call (List.mem_append_left _ mem))
        (room.of_le (by omega) (by omega)) (roomLink.of_le (by omega) (by omega))
    have counted' := stored.categories.counted
    have countedLinks' := stored.links.counted
    obtain ⟨cats', links', last', lastLink', bound', boundLink', stored', tally'⟩ :=
      step (proper call (by simp)) stored tally (room.of_le (by omega) (by omega))
        (roomLink.of_le (by omega) (by omega))
    refine ⟨cats', links', last', lastLink', by omega, by omega, ?_, tally'⟩
    rw [Task.inTurn_append]
    exact stored'

/-- What is told of the categories of one owner after the calls, beside the tables of all owners. -/
structure Told (categories : Categories) (owner : Owner) (db : Database) (calls : List Call)
    (s : Session) (cats : List Category) (links : List StoredLink) : Prop where
  /-- The categories of the owner are those that it has added and not removed since. -/
  listed : (categories.all db s).1 = .ok (cats.filter fun c => Linked owner c calls)
  counted : (categories.count db s).1 =
    .ok ((cats.filter fun c => Linked owner c calls).length : Int)
  /-- Adding a name answers its category, which is made only when there was none, and adds nothing
  further but the link of the owner, unless there was one. -/
  adds : ∀ label, ∃ c next nextLink cats' links' lastCategory lastLink,
    (categories.add label db s).1 = .ok c ∧ Named cats label next c cats' ∧
    Linking links owner c.id nextLink links' ∧
    Stored (categories.add label db s).2 db.handle cats' links' lastCategory lastLink
  /-- Removing a category answers whether the owner was linked to it, and removes this link and
  nothing else. -/
  removes : ∀ id, (categories.remove id db s).1 = .ok (links.any (linksTo owner id)) ∧
    ∃ lastCategory lastLink, Stored (categories.remove id db s).2 db.handle cats
      (links.filter fun l => !linksTo owner id l) lastCategory lastLink

/-- The tables of the categories and of the links, as the calls have left them: no two categories
have one name, no owner is linked to a category twice, and every owner is told of its own links. -/
structure Tables (db : Database) (calls : List Call) (s : Session) (cats : List Category)
    (links : List StoredLink) : Prop where
  stored : ∃ lastCategory lastLink, Stored s db.handle cats links lastCategory lastLink
  names : (cats.map Category.name).Nodup
  apart : (links.map fun l => (l.owner, l.category)).Nodup
  told : ∀ (i : Instance) (owner : Owner) (categories : Categories), i.owner? = some owner →
    Categories.ofInstance i = .ok categories → Told categories owner db calls s cats links

/-- **Categories are shared, links are not.** -/
theorem shared (proper : ∀ call ∈ calls, call.Proper)
    (empty : s.engine.Shows db.handle Category.records.name [] lastCategory)
    (emptyLinks : s.engine.Shows db.handle StoredLink.records.name [] lastLink)
    (counted : 0 ≤ lastCategory) (countedLinks : 0 ≤ lastLink)
    (room : Binary64.IsSmall (lastCategory + calls.length + 1))
    (roomLink : Binary64.IsSmall (lastLink + calls.length + 1)) :
    ∃ cats links, Tables db calls (Task.inTurn Call.perform db calls s) cats links := by
  obtain ⟨cats, links, last', lastLink', bound, boundLink, stored, tally⟩ :=
    run proper empty emptyLinks counted countedLinks
      (room.of_le (by omega) (by omega)) (roomLink.of_le (by omega) (by omega))
  have counted' := stored.categories.counted
  have countedLinks' := stored.links.counted
  have key : Binary64.IsSmall (last' + 1) := room.of_le (by omega) (by omega)
  have keyLink : Binary64.IsSmall (lastLink' + 1) := roomLink.of_le (by omega) (by omega)
  generalize Task.inTurn Call.perform db calls s = s' at stored ⊢
  refine ⟨cats, links, ⟨last', lastLink', stored⟩, tally.names, tally.apart, ?_⟩
  intro i owner categories saved found
  obtain ⟨-, rfl⟩ := (ofInstance_eq_ok saved).1 found
  have linked : (cats.filter fun c => links.any (linksTo owner c.id)) =
      cats.filter fun c => Linked owner c calls :=
    List.filter_congr fun c mem => tally.linked owner c mem
  refine ⟨?_, ?_, fun label => ?_, fun id => ?_⟩
  · obtain ⟨_, answered, rfl, -⟩ := (all_answers owner
      (key.of_le (by omega) (by omega)) tally.toSound stored).outcome
    rw [answered, linked]
  · obtain ⟨_, answered, rfl, -⟩ := (count_answers owner tally.toSound stored).outcome
    rw [answered, linked]
  · obtain ⟨c, answered, cats', links', lc, ll, -, -, named, linking, after⟩ :=
      (add_answers owner label key (le_maxInt64_of_small keyLink) tally.toSound stored).outcome
    exact ⟨c, _, _, cats', links', lc, ll, answered, named, linking, after⟩
  · obtain ⟨_, answered, rfl, after⟩ := (remove_answers owner id
      (keyLink.of_le (by omega) (by omega)) tally.toSound stored).outcome
    exact ⟨answered, _, _, after⟩

/-! ### Posts and products -/

/-- An entity whose instances have categories. -/
def categorized (name table : String) : Model :=
  .bare name table [] { categorizable := true }

/-- A post and a product are put into one category, and the post is taken out of it. -/
def sharing : List Call :=
  [⟨.saved (categorized "Post" "posts") 1, .add { name := "Lean" }⟩,
    ⟨.saved (categorized "Product" "products") 1, .add { name := "Lean" }⟩,
    ⟨.saved (categorized "Post" "posts") 1, .remove 1⟩]

theorem shared_posts :
    (∀ call ∈ sharing, call.Proper) ∧
    Session.start.engine.Shows Database.plain.handle Category.records.name [] 0 ∧
    Session.start.engine.Shows Database.plain.handle StoredLink.records.name [] 0 ∧
    ∃ cats links, Tables .plain sharing
      (Task.inTurn Call.perform .plain sharing Session.start) cats links := by
  have proper : ∀ call ∈ sharing, call.Proper := by
    have small : Binary64.IsSmall 1 := by decide
    intro call mem
    simp only [sharing, List.mem_cons, List.not_mem_nil, or_false] at mem
    obtain rfl | rfl | rfl := mem
    all_goals exact ⟨rfl, _, Instance.owner?_saved rfl (by decide), small⟩
  have empty := Session.start_shows
  exact ⟨proper, empty _, empty _, shared proper (empty _) (empty _) (by decide) (by decide)
    (by decide) (by decide)⟩

/-- A category is added to a post whose key has more than 53 bits. -/
def addingLarge : List Call :=
  [⟨.saved (categorized "Post" "posts") 9007199254740992, .add { name := "Lean" }⟩]

/-- The next post has the category too, although it was never added to it. -/
theorem not_shared_large :
    (∀ call ∈ addingLarge, call.owner.model.traits.categorizable = true ∧
      ∃ owner, call.owner.owner? = some owner) ∧
    Session.start.engine.Shows Database.plain.handle Category.records.name [] 0 ∧
    Session.start.engine.Shows Database.plain.handle StoredLink.records.name [] 0 ∧
    ¬∃ cats links, Tables .plain addingLarge
      (Task.inTurn Call.perform .plain addingLarge Session.start) cats links := by
  have empty := Session.start_shows
  refine ⟨?_, empty _, empty _, ?_⟩
  · intro call mem
    rw [List.mem_singleton.1 mem]
    exact ⟨rfl, _, Instance.owner?_saved rfl (by decide)⟩
  · rintro ⟨cats, links, tables⟩
    let next : Instance := .saved (categorized "Post" "posts") 9007199254740993
    have saved : next.owner? = some ⟨"posts", 9007199254740993⟩ :=
      Instance.owner?_saved rfl (by decide)
    have told := tables.told next _ _ saved ((ofInstance_eq_ok saved).2 ⟨rfl, rfl⟩)
    have unlinked (c : Category) : Linked ⟨"posts", 9007199254740993⟩ c addingLarge = false := by
      refine stands_eq_false fun call mem about => ?_
      rw [List.mem_singleton.1 mem,
        Call.concerns_add (Instance.owner?_saved rfl (by decide)) rfl] at about
      simp at about
    have counted := told.counted
    simp only [unlinked, List.filter_false] at counted
    have answered := congrArg Except.toOption counted
    exact absurd answered (by decide +kernel)

end Categories

end EntityStore
