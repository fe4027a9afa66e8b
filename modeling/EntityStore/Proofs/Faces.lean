import EntityStore.Proofs.Tables
import Mathlib.Logic.Equiv.Basic

/-!
# Records up to their keys

The keys of a table are drawn for all owners in turn, so what one owner has depends on the others in
its keys. The faces of the records of an owner are their contents under renamed keys
(`OwnedTable.faces`), and two tables are alike for an owner when a permutation of the keys leads the
faces of one to those of the other (`OwnedTable.Follows`). A step that both tables take keeps them
alike; where both draw a key, the permutation is extended by a swap.
-/

namespace EntityStore

/-- The permutation once one key more is led to another. -/
def extended (ρ : Equiv.Perm Int) (key key' : Int) : Equiv.Perm Int :=
  ρ.trans (Equiv.swap (ρ key) key')

theorem extended_self (ρ : Equiv.Perm Int) (key key' : Int) : extended ρ key key' key = key' :=
  Equiv.swap_apply_left _ _

theorem extended_of_ne (ρ : Equiv.Perm Int) {key key' other : Int} (h : other ≠ key)
    (h' : ρ other ≠ key') : extended ρ key key' other = ρ other :=
  Equiv.swap_apply_of_ne_of_ne (ρ.injective.ne h) h'

namespace OwnedTable

variable {ι κ : Type} (table : OwnedTable ι) (content : ι → κ)

/-- The record is the one of a key, and it is the owner's. -/
def isOwn (owner : Owner) (id : Int) (item : ι) : Bool :=
  table.id item == id && table.owner item == owner

/-- The contents of the records of an owner under their renamed keys. -/
def faces (ρ : Equiv.Perm Int) (owner : Owner) (items : List ι) : List (Int × κ) :=
  (items.filter fun item => table.owner item == owner).map fun item =>
    (ρ (table.id item), content item)

variable {table content} {ρ : Equiv.Perm Int} {owner other : Owner} {items : List ι} {item : ι}
  {id : Int}

theorem isOwn_iff :
    table.isOwn owner id item = true ↔ table.id item = id ∧ table.owner item = owner := by
  rw [isOwn, Bool.and_eq_true, beq_iff_eq, beq_iff_eq]

theorem faces_append_own (own : table.owner item = owner) :
    table.faces content ρ owner (items ++ [item]) =
      table.faces content ρ owner items ++ [(ρ (table.id item), content item)] := by
  simp [faces, List.filter_append, own]

theorem faces_append_other (different : table.owner item ≠ owner) :
    table.faces content ρ owner (items ++ [item]) = table.faces content ρ owner items := by
  simp [faces, List.filter_append, different]

theorem faces_congr {ρ' : Equiv.Perm Int}
    (same : ∀ item ∈ items, table.owner item = owner → ρ' (table.id item) = ρ (table.id item)) :
    table.faces content ρ' owner items = table.faces content ρ owner items := by
  refine List.map_congr_left fun item mem => ?_
  obtain ⟨there, own⟩ := List.mem_filter.1 mem
  rw [same item there (beq_iff_eq.1 own)]

theorem mem_faces {face : Int × κ} : face ∈ table.faces content ρ owner items ↔
    ∃ item ∈ items, table.owner item = owner ∧ (ρ (table.id item), content item) = face := by
  simp only [faces, List.mem_map, List.mem_filter, beq_iff_eq, and_assoc]

/-- There is a record of the owner under a key when there is a face under the renamed one. -/
theorem any_isOwn (ρ : Equiv.Perm Int) (content : ι → κ) :
    items.any (table.isOwn owner id) =
      (table.faces content ρ owner items).any fun face => face.1 == ρ id := by
  rw [Bool.eq_iff_iff, List.any_eq_true, List.any_eq_true]
  constructor
  · rintro ⟨item, mem, own⟩
    obtain ⟨rfl, owned⟩ := isOwn_iff.1 own
    exact ⟨_, mem_faces.2 ⟨item, mem, owned, rfl⟩, beq_self_eq_true _⟩
  · rintro ⟨face, mem, same⟩
    obtain ⟨item, there, owned, rfl⟩ := mem_faces.1 mem
    exact ⟨item, there, isOwn_iff.2 ⟨ρ.injective (beq_iff_eq.1 same), owned⟩⟩

theorem faces_remove_own :
    table.faces content ρ owner (items.filter fun item => !table.isOwn owner id item) =
      (table.faces content ρ owner items).filter fun face => !(face.1 == ρ id) := by
  rw [faces, faces, List.filter_map, List.filter_filter, List.filter_filter]
  refine congrArg _ (List.filter_congr fun item _ => ?_)
  rw [Function.comp_apply, isOwn, Bool.eq_iff_iff]
  simp only [Bool.and_eq_true, Bool.not_eq_true', Bool.and_eq_false_imp, beq_iff_eq,
    beq_eq_false_iff_ne, ne_eq, ρ.injective.eq_iff]
  exact ⟨fun h => ⟨fun same => h.2 same h.1, h.1⟩, fun h => ⟨h.2, fun same => absurd same h.1⟩⟩

/-- What another owner removes is not missed. -/
theorem faces_remove_other (different : other ≠ owner) :
    table.faces content ρ owner (items.filter fun item => !table.isOwn other id item) =
      table.faces content ρ owner items := by
  rw [faces, faces, List.filter_filter]
  refine congrArg _ (List.filter_congr fun item _ => ?_)
  rw [isOwn, Bool.eq_iff_iff]
  simp only [Bool.and_eq_true, Bool.not_eq_true', Bool.and_eq_false_imp, beq_iff_eq,
    beq_eq_false_iff_ne, ne_eq, and_iff_left_iff_imp]
  rintro rfl _ same
  exact different same.symm

/-- The records once the one of a key is changed, if it is the owner's. -/
def change (table : OwnedTable ι) (owner : Owner) (id : Int) (f : ι → ι) (items : List ι) :
    List ι :=
  items.map fun item => if table.isOwn owner id item then f item else item

/-- A change that leaves keys and owners alone changes the contents of one face. -/
theorem faces_change_own {f : ι → ι} (g : κ → κ)
    (sameId : ∀ item, table.id (f item) = table.id item)
    (sameOwner : ∀ item, table.owner (f item) = table.owner item)
    (shown : ∀ item, content (f item) = g (content item)) :
    table.faces content ρ owner (table.change owner id f items) =
      (table.faces content ρ owner items).map fun face =>
        if face.1 = ρ id then (face.1, g face.2) else face := by
  have kept (item : ι) :
      (table.owner (if table.isOwn owner id item then f item else item) == owner) =
        (table.owner item == owner) := by
    split
    · rw [sameOwner]
    · rfl
  rw [faces, faces, change, List.filter_map, List.map_map, List.map_map]
  simp only [Function.comp_def, kept]
  refine List.map_congr_left fun item mem => ?_
  have own : table.owner item = owner := beq_iff_eq.1 (List.mem_filter.1 mem).2
  by_cases same : table.id item = id
  · rw [if_pos (isOwn_iff.2 ⟨same, own⟩), sameId, shown, same, if_pos rfl]
  · rw [if_neg fun h => same (isOwn_iff.1 h).1, if_neg (ρ.injective.ne same)]

/-- What another owner changes does not show. -/
theorem faces_change_other {f : ι → ι} (different : other ≠ owner)
    (sameOwner : ∀ item, table.owner (f item) = table.owner item) :
    table.faces content ρ owner (table.change other id f items) =
      table.faces content ρ owner items := by
  have kept (item : ι) :
      (table.owner (if table.isOwn other id item then f item else item) == owner) =
        (table.owner item == owner) := by
    split
    · rw [sameOwner]
    · rfl
  rw [faces, faces, change, List.filter_map, List.map_map]
  simp only [Function.comp_def, kept]
  refine List.map_congr_left fun item mem => ?_
  have own : table.owner item = owner := beq_iff_eq.1 (List.mem_filter.1 mem).2
  rw [if_neg fun h => different ((isOwn_iff.1 h).2.symm.trans own)]

/-- The key of a record of another owner is not the key of an own one. -/
theorem not_any_isOwn (distinct : (items.map table.id).Nodup) (mem : item ∈ items)
    (foreign : table.owner item ≠ owner) :
    items.any (table.isOwn owner (table.id item)) = false := by
  refine List.any_eq_false.2 fun own there => ?_
  intro isOwn
  obtain ⟨same, owned⟩ := isOwn_iff.1 isOwn
  exact foreign (List.inj_on_of_nodup_map distinct there mem same ▸ owned)

/-- Where the owner has no record under the key, nothing is removed and nothing is changed. -/
theorem unmoved (absent : items.any (table.isOwn owner id) = false) (f : ι → ι) :
    (items.filter fun item => !table.isOwn owner id item) = items ∧
      table.change owner id f items = items := by
  have other : ∀ item ∈ items, table.isOwn owner id item = false := by
    intro item mem
    exact Bool.eq_false_iff.2 (List.any_eq_false.1 absent item mem)
  refine ⟨List.filter_eq_self.2 fun item mem => by rw [other item mem]; rfl, ?_⟩
  refine (List.map_congr_left fun item mem => ?_).trans (List.map_id items)
  rw [other item mem]
  rfl

/-! ### Tables that are alike for an owner -/

/-- For the owner the records of one table are those of another under renamed keys. Keys that were
drawn before the start are not renamed, and the keys that were named in between are led from drawn
ones to drawn ones. -/
structure Follows (table : OwnedTable ι) (content : ι → κ) (owner : Owner) (start : Int)
    (named : List Int) (ρ : Equiv.Perm Int) (items : List ι) (last : Int) (items' : List ι)
    (last' : Int) : Prop where
  fixed : ∀ id ≤ start, ρ id = id
  grown : start ≤ last ∧ start ≤ last'
  carried : ∀ id ∈ named, id ≤ last ∧ ρ id ≤ last'
  alike : table.faces content ρ owner items = table.faces content 1 owner items'

namespace Follows

variable {start last last' : Int} {named : List Int} {items' : List ι}

theorem refl (table : OwnedTable ι) (content : ι → κ) (owner : Owner) (start : Int)
    (items : List ι) : table.Follows content owner start [] 1 items start items start where
  fixed _ _ := rfl
  grown := ⟨Int.le_refl _, Int.le_refl _⟩
  carried _ mem := nomatch mem
  alike := rfl

/-- A step of the first table that the owner does not see. -/
theorem unseen (follows : table.Follows content owner start named ρ items last items' last')
    {after : List ι} {reached : Int} (later : last ≤ reached)
    (same : table.faces content ρ owner after = table.faces content ρ owner items) :
    table.Follows content owner start named ρ after reached items' last' where
  fixed := follows.fixed
  grown := ⟨follows.grown.1.trans later, follows.grown.2⟩
  carried id mem := ⟨(follows.carried id mem).1.trans later, (follows.carried id mem).2⟩
  alike := same.trans follows.alike

/-- A step that both tables take and that names no key but one of the owner's. -/
theorem both (follows : table.Follows content owner start named ρ items last items' last')
    {after after' : List ι}
    (alike : table.faces content ρ owner after = table.faces content 1 owner after')
    (key : id ≤ last ∧ ρ id ≤ last') :
    table.Follows content owner start (named ++ [id]) ρ after last after' last' where
  fixed := follows.fixed
  grown := follows.grown
  carried id mem := by
    rcases List.mem_append.1 mem with mem | mem
    · exact follows.carried id mem
    · rw [List.mem_singleton.1 mem]
      exact key
  alike := alike

/-- The owner has a record under a key when it has one under the renamed key in the other table, and
then both keys were drawn. -/
theorem present (follows : table.Follows content owner start named ρ items last items' last')
    (keys : ∀ item ∈ items, table.id item ≤ last) (keys' : ∀ item ∈ items', table.id item ≤ last')
    (there : items.any (table.isOwn owner id) = true) :
    items'.any (table.isOwn owner (ρ id)) = true ∧ id ≤ last ∧ ρ id ≤ last' := by
  have there' : items'.any (table.isOwn owner (ρ id)) = true := by
    rw [any_isOwn 1 content, ← follows.alike]
    exact (any_isOwn ρ content).symm.trans there
  refine ⟨there', ?_, ?_⟩
  · obtain ⟨item, mem, own⟩ := List.any_eq_true.1 there
    exact (isOwn_iff.1 own).1 ▸ keys item mem
  · obtain ⟨item, mem, own⟩ := List.any_eq_true.1 there'
    exact (isOwn_iff.1 own).1 ▸ keys' item mem

/-- Both tables draw a key for the owner. The permutation leads one key to the other, and what it
led before it leads as before. -/
theorem draw (follows : table.Follows content owner start named ρ items last items' last')
    (keys : ∀ item ∈ items, table.id item ≤ last) (keys' : ∀ item ∈ items', table.id item ≤ last')
    (item item' : ι) (own : table.owner item = owner) (own' : table.owner item' = owner)
    (next : table.id item = last + 1) (next' : table.id item' = last' + 1)
    (same : content item = content item') :
    (∀ id ∈ named, extended ρ (last + 1) (last' + 1) id = ρ id) ∧
    table.Follows content owner start named (extended ρ (last + 1) (last' + 1)) (items ++ [item])
      (last + 1) (items' ++ [item']) (last' + 1) := by
  obtain ⟨grown, grown'⟩ := follows.grown
  have kept (id : Int) (before : id ≤ last) (before' : ρ id ≤ last') :
      extended ρ (last + 1) (last' + 1) id = ρ id :=
    extended_of_ne ρ (by omega) (by omega)
  have named_kept : ∀ id ∈ named, extended ρ (last + 1) (last' + 1) id = ρ id := fun id mem =>
    kept id (follows.carried id mem).1 (follows.carried id mem).2
  refine ⟨named_kept, ?_, ⟨by omega, by omega⟩, fun id mem => ?_, ?_⟩
  · intro id before
    have fixed := follows.fixed id before
    rw [kept id (by omega) (by omega), fixed]
  · have carried := follows.carried id mem
    rw [named_kept id mem]
    omega
  · rw [faces_append_own own, faces_append_own own', next, next', extended_self, same]
    refine congrArg (· ++ _) ((faces_congr fun item mem owned => ?_).trans follows.alike)
    refine kept _ (keys item mem) ?_
    have shown : (ρ (table.id item), content item) ∈ table.faces content 1 owner items' :=
      follows.alike ▸ mem_faces.2 ⟨item, mem, owned, rfl⟩
    obtain ⟨item', mem', -, face⟩ := mem_faces.1 shown
    have key : table.id item' = ρ (table.id item) := congrArg Prod.fst face
    exact key ▸ keys' item' mem'

end Follows

end OwnedTable

end EntityStore
