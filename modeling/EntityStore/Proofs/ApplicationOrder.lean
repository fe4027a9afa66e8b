import EntityStore.Proofs.Slots

/-!
# The order in which bodies are put in

The bodies of the present text are put into the new one one by one, in any order, and each is looked
for in the text that those before it have left. An end marker is found in no body, but a begin
marker can be: a body that holds the begin marker of a later block, and is put in before the body of
that block, draws it to itself, and what stands between the two is lost. Where no body holds such a
marker every order leads to the same text; where one does, two orders lead to different ones. Main
result: `Block.orders_agree_iff`.
-/

namespace EntityStore

namespace Block

/-! ### One body -/

section

variable {before after slots : List Slot} {slot : Slot} {tail : List Char}

/-- The body of a block is exchanged when no earlier block holds the markers of its name. -/
theorem carry_woven (sound : slot.Sound)
    (earlier : ∀ first ∈ before, first.Sound ∧ first.Clear slot.name)
    (fresh : slot.name ∉ before.map (·.name)) (body : List Char) :
    carry (woven (before ++ slot :: after) tail) (slot.name, body) =
      woven (before ++ { slot with body } :: after) tail := by
  have written (s : Slot) : woven (before ++ s :: after) tail =
      around (before.flatMap Slot.text ++ s.gap) s.name s.body (woven after tail) := by
    rw [woven_append, woven_cons, woven, Slot.text, around]
    simp only [List.append_assoc]
  have others : ∀ first ∈ before, ∀ t, Absent (marker "END" slot.name) first.text t := by
    refine fun first mem => (earlier first mem).1.absent_end sound.isName fun same => fresh ?_
    exact List.mem_map.2 ⟨first, mem, same.symm⟩
  rw [written, written]
  refine carry_around (.append (absent_flatMap (fun first mem => (earlier first mem).2) _)
    (sound.begins _)) ?_ body
  rw [List.append_assoc, ← List.append_assoc slot.gap]
  exact .append (absent_flatMap others _) (.append (sound.opening _ sound.isName _)
    (sound.sealed_ _ _ sound.isName))

/-- A body without a block changes nothing. -/
theorem carry_outside (sound : ∀ slot ∈ slots, slot.Sound) {name : List Char} (isName : IsName name)
    (outside : name ∉ slots.map (·.name)) (absent : Absent (marker "END" name) tail [])
    (body : List Char) : carry (woven slots tail) (name, body) = woven slots tail := by
  refine carry_of_absent (.append (absent_flatMap (fun slot mem t => ?_) _) absent) body
  refine (sound slot mem).absent_end isName (fun same => ?_) t
  exact outside (List.mem_map.2 ⟨slot, mem, same.symm⟩)

end

/-- A piece that begins in a text has its first occurrence there. -/
theorem splitAtPiece?_of_not_absent {piece x t : List Char} (begun : ¬Absent piece x t) :
    ∃ before rest, splitAtPiece? piece (x ++ t) = some (before, rest) ∧
      before.length < x.length := by
  induction x with
  | nil => exact absurd (.nil _ _) begun
  | cons c x ih =>
    by_cases here : piece <+: c :: x ++ t
    · refine ⟨[], c :: x ++ t, ?_, Nat.succ_pos _⟩
      rw [List.cons_append, splitAtPiece?, if_pos]
      exact dropPiece?_isSome.2 here
    · have later : ¬Absent piece x t := fun absent => begun (.cons here absent)
      obtain ⟨before, rest, split, short⟩ := ih later
      refine ⟨c :: before, rest, ?_, Nat.succ_lt_succ short⟩
      rw [List.cons_append, splitAtPiece?, if_neg, split]
      · rfl
      · exact fun found => here (dropPiece?_isSome.1 found)

/-- A begin marker in front of the own one takes its place, and what stands between them is lost. -/
theorem carry_drawn {name x y z tail : List Char}
    (first : Absent (marker "BEGIN" name) x (y ++ (z ++ (marker "END" name ++ tail))))
    (drawn : ¬Absent (marker "BEGIN" name) y (z ++ (marker "END" name ++ tail)))
    (ends : Absent (marker "END" name) (x ++ (y ++ z)) (marker "END" name ++ tail))
    (body : List Char) :
    ∃ y', y'.length < y.length ∧
      carry (x ++ (y ++ (z ++ (marker "END" name ++ tail)))) (name, body) =
      x ++ (y' ++ (marker "BEGIN" name ++ (body ++ (marker "END" name ++ tail)))) := by
  obtain ⟨y', rest, split, short⟩ := splitAtPiece?_of_not_absent drawn
  have opening :
      splitAtPiece? (marker "BEGIN" name) (x ++ (y ++ (z ++ (marker "END" name ++ tail)))) =
      some (x ++ y', rest) := by
    rw [splitAtPiece?_append first, split]
    rfl
  have closing :
      splitAtPiece? (marker "END" name) (x ++ (y ++ (z ++ (marker "END" name ++ tail)))) =
      some (x ++ (y ++ z), marker "END" name ++ tail) := by
    have found := splitAtPiece?_eq_some (marker_ne_nil _ _) ends
    simpa only [List.append_assoc] using found
  have later : (x ++ y').length < (x ++ (y ++ z)).length := by
    simp only [List.length_append]
    omega
  refine ⟨y', short, ?_⟩
  rw [carry, opening, closing]
  refine (if_pos later).trans ?_
  simp only [List.append_assoc]

/-! ### Bodies in an order -/

/-- The bodies by their names, each name once. -/
structure Lists (found : List Char → Option (List Char)) (order : List (List Char × List Char)) :
    Prop where
  nodup : (order.map Prod.fst).Nodup
  mem_iff : ∀ name body, (name, body) ∈ order ↔ found name = some body

/-- The bodies of all names but one. -/
def without (found : List Char → Option (List Char)) (name other : List Char) :
    Option (List Char) :=
  if other = name then none else found other

/-- No body that is put in holds the begin marker of a later block whose body is put in too, also
not together with the end marker behind it. -/
def Untangled (found : List Char → Option (List Char)) (slots : List Slot) : Prop :=
  slots.Pairwise fun slot later => ∀ body, found slot.name = some body →
    (found later.name).isSome = true →
      Absent (marker "BEGIN" later.name) body (marker "END" slot.name)

section

variable {found : List Char → Option (List Char)} {order : List (List Char × List Char)}
  {slots : List Slot} {tail : List Char}

theorem without_eq_some {name other body : List Char} :
    without found name other = some body ↔ other ≠ name ∧ found other = some body := by
  unfold without
  split
  · next own => simp [own]
  · next different => simp [different]

theorem Untangled.without (untangled : Untangled found slots) (name : List Char) :
    Untangled (without found name) slots := by
  refine untangled.imp fun apart body taken later => ?_
  obtain ⟨body', taken'⟩ := Option.isSome_iff_exists.1 later
  exact apart body (without_eq_some.1 taken).2
    (Option.isSome_iff_exists.2 ⟨body', (without_eq_some.1 taken').2⟩)

/-- Without the last one, the others are listed. -/
theorem Lists.init {pair : List Char × List Char} (lists : Lists found (order ++ [pair])) :
    Lists (without found pair.1) order := by
  have names := lists.nodup
  rw [List.map_append, List.nodup_append] at names
  refine ⟨names.1, fun name body => ?_⟩
  rw [without_eq_some, ← lists.mem_iff, List.mem_append, List.mem_singleton]
  constructor
  · intro mem
    have listed := List.mem_map_of_mem (f := Prod.fst) mem
    exact ⟨names.2.2 name listed pair.1 List.mem_cons_self, .inl mem⟩
  · rintro ⟨other, mem | rfl⟩
    · exact mem
    · exact absurd rfl other

theorem map_filled_without {name : List Char} (outside : name ∉ slots.map (·.name)) :
    slots.map (Slot.filled (without found name)) = slots.map (Slot.filled found) := by
  refine List.map_congr_left fun slot mem => ?_
  rw [Slot.filled, without, if_neg]
  · rfl
  · exact fun own => outside (List.mem_map.2 ⟨slot, mem, own⟩)

/-- Bodies that are not tangled find their places in every order. -/
theorem foldl_carry_untangled (formed : WellFormed slots tail) (lists : Lists found order)
    (each : ∀ pair ∈ order, IsName pair.1 ∧ Sealed pair.1 pair.2)
    (untangled : Untangled found slots) :
    order.foldl carry (woven slots tail) = woven (slots.map (Slot.filled found)) tail := by
  induction order using List.reverseRecOn generalizing found with
  | nil =>
    have none : ∀ slot ∈ slots, slot.filled found = slot := fun slot _ =>
      Slot.filled_of_none (Option.eq_none_iff_forall_not_mem.2 fun body mem =>
        nomatch (lists.mem_iff slot.name body).2 mem)
    rw [List.map_congr_left none, List.map_id']
    rfl
  | append_singleton order pair ih =>
    obtain ⟨name, body⟩ := pair
    have last : found name = some body := (lists.mem_iff name body).1 (by simp)
    have isName : IsName name := (each (name, body) (by simp)).1
    have filledSound : ∀ slot ∈ slots, (slot.filled (without found name)).Sound := by
      refine fun slot mem => (formed.placed.sound slot mem).filled fun body taken => ?_
      exact (each _ (List.mem_append_left _ ((lists.init.mem_iff _ _).2 taken))).2
    rw [List.foldl_append, ih lists.init (fun pair mem => each pair (List.mem_append_left _ mem))
      (untangled.without name), List.foldl_cons, List.foldl_nil]
    by_cases inside : name ∈ slots.map (·.name)
    · obtain ⟨slot, mem, rfl⟩ := List.mem_map.1 inside
      obtain ⟨before, after, rfl⟩ := List.append_of_mem mem
      obtain ⟨sound, earlier, notBefore, notAfter⟩ := formed.placed.around
      have own : slot.filled (without found slot.name) = slot :=
        Slot.filled_of_none (if_pos rfl)
      have apart := (List.pairwise_append.1 untangled).2.2
      have still : ∀ first ∈ before, (first.filled (without found slot.name)).Clear slot.name := by
        refine fun first mem => (earlier first mem).2.filled isName fun body taken => ?_
        exact apart first mem slot List.mem_cons_self body (without_eq_some.1 taken).2
          (Option.isSome_iff_exists.2 ⟨_, last⟩)
      rw [List.map_append, List.map_cons, own, carry_woven sound, map_filled_without notBefore,
        map_filled_without notAfter, List.map_append, List.map_cons, Slot.filled_of_some last]
      · refine List.forall_mem_map.2 fun first mem => ⟨?_, still first mem⟩
        exact filledSound first (List.mem_append_left _ mem)
      · rwa [List.map_map]
    · rw [carry_outside _ isName _ (formed.absent_tail isName), map_filled_without inside]
      · exact List.forall_mem_map.2 filledSound
      · rwa [List.map_map]

/-! ### Bodies that are tangled -/

/-- The bodies for some blocks, in the order of the blocks. -/
def fills (found : List Char → Option (List Char)) (slots : List Slot) :
    List (List Char × List Char) :=
  slots.filterMap fun slot => (found slot.name).map (slot.name, ·)

/-- From the last block to the first, every body finds its place. -/
theorem foldl_carry_fills {before : List Slot} (placed : Placed (before ++ slots)) :
    (fills found slots).reverse.foldl carry (woven (before ++ slots) tail) =
      woven (before ++ slots.map (Slot.filled found)) tail := by
  induction slots generalizing before with
  | nil => rfl
  | cons slot slots ih =>
    have assoc (slots : List Slot) : before ++ slot :: slots = (before ++ [slot]) ++ slots := by
      simp
    have later :
        (fills found slots).reverse.foldl carry (woven ((before ++ [slot]) ++ slots) tail) =
          woven ((before ++ [slot]) ++ slots.map (Slot.filled found)) tail :=
      ih (assoc slots ▸ placed)
    rw [← assoc, ← assoc] at later
    cases last : found slot.name with
    | none =>
      rw [fills, List.filterMap_cons_none (by rw [last]; rfl), List.map_cons,
        Slot.filled_of_none last]
      exact later
    | some body =>
      rw [fills, List.filterMap_cons_some (by rw [last]; rfl), List.reverse_cons, List.foldl_append]
      obtain ⟨sound, earlier, fresh, -⟩ := placed.around
      rw [← fills, later, List.foldl_cons, List.foldl_nil, carry_woven sound earlier fresh,
        List.map_cons, Slot.filled_of_some last]

section

variable {before middle after : List Slot} {slot later : Slot} {body body' : List Char}

/-- A body with the begin marker of a later block takes it from that block. -/
theorem carry_tangled (placed : Placed (before ++ slot :: (middle ++ [later])))
    (each : ∀ name body, found name = some body → Sealed name body)
    (taken : found slot.name = some body)
    (tangled : ¬Absent (marker "BEGIN" later.name) body (marker "END" slot.name))
    (body' tail : List Char) :
    ∃ drawn, drawn.length < body.length ∧
      carry (woven (before ++ slot.filled found :: (middle.map (Slot.filled found) ++ [later])) tail)
          (later.name, body') =
        woven before (slot.gap ++ (marker "BEGIN" slot.name ++ (drawn ++ (marker "BEGIN" later.name ++
          (body' ++ (marker "END" later.name ++ tail)))))) := by
  have assoc : before ++ slot :: (middle ++ [later]) = (before ++ slot :: middle) ++ [later] := by
    simp
  obtain ⟨sound, earlier, fresh, -⟩ := (assoc ▸ placed).around
  have isName := sound.isName
  -- The text up to the body, the body, and what follows it up to the end marker of the later block.
  let opening := before.flatMap Slot.text ++ (slot.gap ++ marker "BEGIN" slot.name)
  let behind := marker "END" slot.name ++ ((middle.map (Slot.filled found)).flatMap Slot.text ++
    ((later.gap ++ marker "BEGIN" later.name) ++ later.body))
  have written : woven (before ++ slot.filled found :: (middle.map (Slot.filled found) ++ [later]))
      tail = opening ++ (body ++ (behind ++ (marker "END" later.name ++ tail))) := by
    rw [Slot.filled_of_some taken]
    simp only [woven, List.flatMap_append, List.flatMap_cons, List.flatMap_nil, List.append_nil,
      Slot.text, List.append_assoc, opening, behind]
  have first (t : List Char) : Absent (marker "BEGIN" later.name) opening t := by
    refine .append (absent_flatMap (fun s mem => (earlier s (by simp [mem])).2) _) ?_
    exact (earlier slot (by simp)).2.opening isName t
  have drawn (t : List Char) : ¬Absent (marker "BEGIN" later.name) body (behind ++ t) := by
    intro absent
    rw [List.append_assoc] at absent
    have alone : Absent (marker "BEGIN" later.name) body (marker "END" slot.name ++ []) :=
      absent.beyond isName.open_ (by decide)
    rw [List.append_nil] at alone
    exact tangled alone
  have others : ∀ s ∈ before ++ (slot :: middle).map (Slot.filled found), ∀ t,
      Absent (marker "END" later.name) s.text t := by
    have apart : ∀ s ∈ before ++ slot :: middle, later.name ≠ s.name :=
      fun s mem same => fresh (List.mem_map.2 ⟨s, mem, same.symm⟩)
    refine List.forall_mem_append.2 ⟨fun s mem => ?_, List.forall_mem_map.2 fun s mem => ?_⟩
    · exact (earlier s (by simp [mem])).1.absent_end isName (apart s (by simp [mem]))
    · have filled := (earlier s (List.mem_append_right _ mem)).1.filled (each s.name)
      exact filled.absent_end isName (apart s (List.mem_append_right _ mem))
  have ends (t : List Char) : Absent (marker "END" later.name) (opening ++ (body ++ behind))
      (marker "END" later.name ++ t) := by
    have whole : opening ++ (body ++ behind) =
        (before ++ (slot :: middle).map (Slot.filled found)).flatMap Slot.text ++
          ((later.gap ++ marker "BEGIN" later.name) ++ later.body) := by
      rw [List.map_cons, Slot.filled_of_some taken]
      simp only [List.flatMap_append, List.flatMap_cons, Slot.text, List.append_assoc, opening,
        behind]
    rw [whole]
    exact .append (absent_flatMap others _)
      (.append (sound.opening _ isName _) (sound.sealed_ _ _ isName))
  obtain ⟨drawn, short, carried⟩ := carry_drawn (first _) (drawn _) (ends _) body'
  refine ⟨drawn, short, ?_⟩
  rw [written, carried]
  simp only [woven, List.append_assoc, opening]

/-- Where a body holds the begin marker of a later block, putting it in right before the body of
that block loses what stands between them. -/
theorem foldl_carry_tangled (placed : Placed (before ++ slot :: (middle ++ later :: after)))
    (each : ∀ name body, found name = some body → Sealed name body)
    (taken : found slot.name = some body) (taken' : found later.name = some body')
    (tangled : ¬Absent (marker "BEGIN" later.name) body (marker "END" slot.name)) :
    ((fills found after).reverse ++ ((fills found middle).reverse ++
        ((slot.name, body) :: (later.name, body') :: (fills found before).reverse))).foldl carry
      (woven (before ++ slot :: (middle ++ later :: after)) tail) ≠
      woven ((before ++ slot :: (middle ++ later :: after)).map (Slot.filled found)) tail := by
  have assoc (slots : List Slot) : before ++ slot :: (middle ++ later :: slots) =
      (before ++ slot :: (middle ++ [later])) ++ slots := by simp
  have assoc' (slots slots' : List Slot) : before ++ slot :: (slots ++ slots') =
      ((before ++ [slot]) ++ slots) ++ slots' := by simp
  obtain ⟨sound, earlier, fresh, -⟩ := placed.around
  have placedFront : Placed (before ++ slot :: (middle ++ [later])) :=
    placed.sublist (assoc after ▸ List.sublist_append_left _ _)
  have placedMiddle : Placed ((before ++ [slot]) ++ middle) :=
    placed.sublist (assoc' middle (later :: after) ▸ List.sublist_append_left _ _)
  have placedBefore : Placed ([] ++ before) := placed.sublist (List.sublist_append_left _ _)
  let after' := after.map (Slot.filled found)
  let middle' := middle.map (Slot.filled found)
  have first : (fills found after).reverse.foldl carry
      (woven (before ++ slot :: (middle ++ later :: after)) tail) =
      woven (before ++ slot :: (middle ++ later :: after')) tail := by
    rw [assoc after, assoc after']
    exact foldl_carry_fills (assoc after ▸ placed)
  have second : (fills found middle).reverse.foldl carry
      (woven (before ++ slot :: (middle ++ later :: after')) tail) =
      woven (before ++ slot :: (middle' ++ later :: after')) tail := by
    rw [assoc' middle, assoc' middle', woven_append, woven_append _ (later :: after')]
    exact foldl_carry_fills placedMiddle
  have third :
      carry (woven (before ++ slot :: (middle' ++ later :: after')) tail) (slot.name, body) =
      woven (before ++ slot.filled found :: (middle' ++ later :: after')) tail := by
    rw [carry_woven sound earlier fresh, Slot.filled_of_some taken]
  have whole : before ++ slot.filled found :: (middle' ++ later :: after') =
      (before ++ slot.filled found :: (middle' ++ [later])) ++ after' := by simp
  obtain ⟨drawn, short, fourth⟩ :=
    carry_tangled placedFront each taken tangled body' (woven after' tail)
  have fifth (rest : List Char) : (fills found before).reverse.foldl carry (woven before rest) =
      woven (before.map (Slot.filled found)) rest := foldl_carry_fills placedBefore
  rw [List.foldl_append, first, List.foldl_append, second, List.foldl_cons, third, List.foldl_cons,
    whole, woven_append, fourth, fifth, List.map_append, woven_append]
  intro same
  have size := congrArg List.length (List.append_cancel_left same)
  rw [List.map_cons, List.map_append, List.map_cons, Slot.filled_of_some taken,
    Slot.filled_of_some taken', woven_cons, woven_append, woven_cons] at size
  simp only [woven, Slot.text, List.length_append, after'] at size
  omega

end

/-! ### All orders -/

theorem mem_fills {pair : List Char × List Char} :
    pair ∈ fills found slots ↔ pair.1 ∈ slots.map (·.name) ∧ found pair.1 = some pair.2 := by
  rw [fills, List.mem_filterMap, List.mem_map]
  constructor
  · rintro ⟨slot, mem, given⟩
    obtain ⟨body, taken, rfl⟩ := Option.map_eq_some_iff.1 given
    exact ⟨⟨slot, mem, rfl⟩, taken⟩
  · rintro ⟨⟨slot, mem, named⟩, taken⟩
    refine ⟨slot, mem, ?_⟩
    rw [named, taken]
    rfl

theorem nodup_fills (nodup : (slots.map (·.name)).Nodup) :
    ((fills found slots).map Prod.fst).Nodup := by
  have names : (fills found slots).map Prod.fst =
      (slots.map (·.name)).filter fun name => (found name).isSome := by
    induction slots with
    | nil => rfl
    | cons slot slots ih =>
      rw [fills, List.map_cons, List.filter_cons]
      cases taken : found slot.name with
      | none => 
        rw [List.filterMap_cons_none (by rw [taken]; rfl), ← fills, ih (List.nodup_cons.1 nodup).2]
        rfl
      | some body =>
        rw [List.filterMap_cons_some (by rw [taken]; rfl), ← fills, List.map_cons,
          ih (List.nodup_cons.1 nodup).2]
        rfl
  rw [names]
  exact nodup.filter _

/-- The bodies that have no block, and behind them those that have one, in any order. -/
theorem Lists.outside_append (lists : Lists found order) (nodup : (slots.map (·.name)).Nodup)
    {inside : List (List Char × List Char)} (perm : inside.Perm (fills found slots)) :
    Lists found ((order.filter fun pair => decide (pair.1 ∉ slots.map (·.name))) ++ inside) := by
  constructor
  · rw [List.map_append, List.nodup_append]
    refine ⟨lists.nodup.sublist (List.filter_sublist.map _),
      (perm.map Prod.fst).nodup_iff.2 (nodup_fills nodup), ?_⟩
    rintro name out other listed rfl
    obtain ⟨pair, mem, rfl⟩ := List.mem_map.1 out
    obtain ⟨pair', mem', same⟩ := List.mem_map.1 listed
    have outside := of_decide_eq_true (List.mem_filter.1 mem).2
    exact outside (same ▸ (mem_fills.1 (perm.mem_iff.1 mem')).1)
  · intro name body
    rw [List.mem_append, perm.mem_iff, mem_fills, List.mem_filter, lists.mem_iff, decide_eq_true_eq,
      and_comm, ← or_and_right]
    exact and_iff_right (Decidable.not_or_of_imp id) 

/-- Bodies without a block change nothing. -/
theorem foldl_carry_outside (formed : WellFormed slots tail)
    (each : ∀ pair ∈ order, IsName pair.1 ∧ pair.1 ∉ slots.map (·.name)) :
    order.foldl carry (woven slots tail) = woven slots tail := by
  induction order with
  | nil => rfl
  | cons pair order ih =>
    obtain ⟨isName, outside⟩ := each pair List.mem_cons_self
    rw [List.foldl_cons,
      carry_outside formed.placed.sound isName outside (formed.absent_tail isName)]
    exact ih fun pair mem => each pair (List.mem_cons_of_mem _ mem)

/-- Of two bodies that are tangled, the later one is that of a later block. -/
theorem exists_tangled (tangled : ¬Untangled found slots) :
    ∃ before slot middle later after body body',
      slots = before ++ slot :: (middle ++ later :: after) ∧ found slot.name = some body ∧
        found later.name = some body' ∧
        ¬Absent (marker "BEGIN" later.name) body (marker "END" slot.name) := by
  rw [Untangled, List.pairwise_iff_forall_sublist] at tangled
  push Not at tangled
  obtain ⟨slot, later, part, body, taken, takenLater, tangled⟩ := tangled
  obtain ⟨first, rest, rfl, mem, single⟩ := List.cons_sublist_iff.1 part
  obtain ⟨before, middle, rfl⟩ := List.append_of_mem mem
  obtain ⟨middle', after, rfl⟩ := List.append_of_mem (List.singleton_sublist.1 single)
  obtain ⟨body', takenLater⟩ := Option.isSome_iff_exists.1 takenLater
  exact ⟨before, slot, middle ++ middle', later, after, body, body', by simp, taken, takenLater,
    tangled⟩

/-- All orders agree exactly when no two bodies are tangled. -/
theorem untangled_iff (formed : WellFormed slots tail) (lists : Lists found order)
    (each : ∀ name body, found name = some body → IsName name ∧ Sealed name body) :
    (∀ left right, Lists found left → Lists found right →
      left.foldl carry (woven slots tail) = right.foldl carry (woven slots tail)) ↔
      Untangled found slots := by
  have eachListed {order : List (List Char × List Char)} (lists : Lists found order) :
      ∀ pair ∈ order, IsName pair.1 ∧ Sealed pair.1 pair.2 :=
    fun pair mem => each _ _ ((lists.mem_iff _ _).1 mem)
  constructor
  · intro agree
    by_contra entangled
    obtain ⟨before, slot, middle, later, after, body, body', rfl, taken, taken', tangled⟩ :=
      exists_tangled entangled
    have perm : ((fills found after).reverse ++ ((fills found middle).reverse ++
        ((slot.name, body) :: (later.name, body') :: (fills found before).reverse))).Perm
        (fills found (before ++ slot :: (middle ++ later :: after))) := by
      refine List.perm_iff_count.2 fun pair => ?_
      simp only [fills, List.filterMap_append, List.filterMap_cons, taken, taken', Option.map_some,
        List.count_append, List.count_cons, List.count_reverse]
      omega
    -- Behind the bodies without a block: from the last block to the first, or the two in a row.
    let outside := order.filter fun pair =>
      decide (pair.1 ∉ (before ++ slot :: (middle ++ later :: after)).map (·.name))
    have passed (rest : List (List Char × List Char)) : (outside ++ rest).foldl carry
        (woven (before ++ slot :: (middle ++ later :: after)) tail) =
        rest.foldl carry (woven (before ++ slot :: (middle ++ later :: after)) tail) := by
      rw [List.foldl_append, foldl_carry_outside formed]
      refine fun pair mem => ⟨(eachListed lists pair (List.mem_of_mem_filter mem)).1, ?_⟩
      exact of_decide_eq_true (List.mem_filter.1 mem).2
    have descending :
        (fills found (before ++ slot :: (middle ++ later :: after))).reverse.foldl carry
        (woven ([] ++ (before ++ slot :: (middle ++ later :: after))) tail) = _ :=
      foldl_carry_fills formed.placed
    have same := agree _ _ (lists.outside_append formed.nodup perm)
      (lists.outside_append formed.nodup (List.reverse_perm _))
    rw [passed, passed] at same
    exact foldl_carry_tangled formed.placed (fun name body taken => (each name body taken).2) taken
      taken' tangled (same.trans descending)
  · intro untangled left right listsLeft listsRight
    rw [foldl_carry_untangled formed listsLeft (eachListed listsLeft) untangled,
      foldl_carry_untangled formed listsRight (eachListed listsRight) untangled]

end

/-! ### The bodies of a text -/

section

variable {present tail : List Char} {blocks : List Block} {slots : List Slot}
  {order order' : List (List Char × List Char)}

theorem collects_iff_lists : Collects blocks order ↔ Lists (lastBody? · blocks) order :=
  ⟨fun h => ⟨h.nodup, h.mem_iff⟩, fun h => ⟨h.nodup, h.mem_iff⟩⟩

theorem Collects.perm (collects : Collects blocks order) (perm : order.Perm order') :
    Collects blocks order' where
  nodup := (perm.map Prod.fst).nodup_iff.1 collects.nodup
  mem_iff name body := perm.mem_iff.symm.trans (collects.mem_iff name body)

/-- Bodies in which no marker begins are not tangled. -/
theorem untangled_of_plain (plain : ∀ block ∈ blocks, ¬markerStart <:+: block.body) :
    Untangled (lastBody? · blocks) slots := by
  refine List.pairwise_of_forall fun slot later body taken _ => ?_
  obtain ⟨block, mem, -, rfl⟩ := exists_of_lastBody? taken
  have absent := absent_head (plain block mem) "END" slot.name []
  rw [List.append_nil] at absent
  exact absent.longer (markerStart_begins _ _)

/-- **When the order does not matter.** The blocks of a text that are all closed under their own
names are put into a well-formed text one after the other. All orders lead to the same text exactly
when no body is tangled with that of a later block, and then every block has got the last body of
its name. -/
theorem orders_agree_iff (reads : Scans present blocks)
    (closed : ∀ block ∈ blocks, block.opened = block.closed) (formed : WellFormed slots tail) :
    (∃ order, Collects blocks order ∧
      merge present (woven slots tail) = .ok (order.foldl carry (woven slots tail))) ∧
    ((∀ left right, Collects blocks left → Collects blocks right →
      left.foldl carry (woven slots tail) = right.foldl carry (woven slots tail)) ↔
      Untangled (lastBody? · blocks) slots) ∧
    (Untangled (lastBody? · blocks) slots → ∀ order, Collects blocks order →
      order.foldl carry (woven slots tail) =
        woven (slots.map (Slot.filled (lastBody? · blocks))) tail) := by
  obtain rfl := scans_iff.1 reads
  have each : ∀ name body, lastBody? name (scan present) = some body →
      IsName name ∧ Sealed name body := by
    intro name body taken
    obtain ⟨block, mem, rfl, rfl⟩ := exists_of_lastBody? taken
    have ⟨isName, sealed_⟩ := sealed_of_mem_scan mem
    exact ⟨isName, closed block mem ▸ sealed_⟩
  refine ⟨⟨_, collects_foldl _, ?_⟩, ?_, fun untangled order collects => ?_⟩
  · rw [merge, bodies_eq, foldlM_put? closed]
    rfl
  · simp only [collects_iff_lists]
    exact untangled_iff formed (collects_iff_lists.1 (collects_foldl _)) each
  · refine foldl_carry_untangled formed (collects_iff_lists.1 collects) (fun pair mem => ?_)
      untangled
    exact each _ _ ((collects.mem_iff _ _).1 mem)

end

/-- A text with two empty blocks. -/
def twoSlots : List Slot :=
  [⟨"new\n".toList, ['a'], ['\n']⟩, ⟨['\n'], ['b'], ['\n']⟩]

theorem wellFormed_twoSlots : WellFormed twoSlots ['\n'] :=
  wellFormed_of_plain (by decide) (by decide) (by decide)

/-- Two bodies without markers. -/
def separate : List Block :=
  [⟨['a'], "one".toList, ['a']⟩, ⟨['b'], "two".toList, ['b']⟩]

theorem orders_agree_separate :
    Scans (separate.flatMap text) separate ∧ WellFormed twoSlots ['\n'] ∧
      ∀ order, Collects separate order → order.foldl carry (woven twoSlots ['\n']) =
        woven [⟨"new\n".toList, ['a'], "one".toList⟩, ⟨['\n'], ['b'], "two".toList⟩] ['\n'] := by
  have reads : Scans (separate.flatMap text) separate := scans_iff.2 (by decide +kernel)
  obtain ⟨-, -, fillsAll⟩ := orders_agree_iff reads (by decide) wellFormed_twoSlots
  have filled : twoSlots.map (Slot.filled (lastBody? · separate)) =
      [⟨"new\n".toList, ['a'], "one".toList⟩, ⟨['\n'], ['b'], "two".toList⟩] := by
    decide +kernel
  refine ⟨reads, wellFormed_twoSlots, fun order collects => ?_⟩
  rw [fillsAll (untangled_of_plain (by decide +kernel)) order collects, filled]

/-- The first body holds the begin marker of the other block. -/
def entangled : List Block :=
  [⟨['a'], marker "BEGIN" ['b'], ['a']⟩, ⟨['b'], "kept".toList, ['b']⟩]

/-- Put in first, it draws the second body to it. -/
theorem not_orders_agree_entangled :
    Scans (entangled.flatMap text) entangled ∧
      (∀ block ∈ entangled, block.opened = block.closed) ∧ WellFormed twoSlots ['\n'] ∧
      ∃ left right, Collects entangled left ∧ Collects entangled right ∧
        left.foldl carry (woven twoSlots ['\n']) ≠ right.foldl carry (woven twoSlots ['\n']) := by
  have collects : Collects entangled [(['a'], marker "BEGIN" ['b']), (['b'], "kept".toList)] := by
    have listed : entangled.foldl put [] =
        [(['a'], marker "BEGIN" ['b']), (['b'], "kept".toList)] := by
      decide +kernel
    exact listed ▸ collects_foldl entangled
  refine ⟨scans_iff.2 (by decide +kernel), by decide, wellFormed_twoSlots, _, _, collects,
    collects.perm (.swap _ _ _), ?_⟩
  decide +kernel

end Block

end EntityStore
