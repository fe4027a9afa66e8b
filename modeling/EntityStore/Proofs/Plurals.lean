import EntityStore.Proofs.Likes
import Mathlib.Data.List.Infix

/-!
# Nouns that are read back from their plural

The column that points at an entity is named after the entity, and the one that points at the rows
of a table after the singular of the table. The two names agree as far as the singular of the plural
is the noun again. Every plural ends in `s`, and the singular goes by what stands in front of it
(`Naming.singularChars_concat`), which does not always tell how the plural was made: `buses` is taken
for the plural of `buse`, `movies` for that of `movy` and `caches` for that of `cach`. Main result:
which entities have one name for both columns (`Naming.keysAgree_iff`).
-/

namespace EntityStore

namespace Naming

variable {cs : List Char}

/-! ### Endings -/

theorem endsIn_eq_true {ending : String} :
    endsIn ending cs = true ↔ ending.toList <:+ cs :=
  List.isSuffixOf_iff_suffix

/-- What two texts have in common at their ends may be left out. -/
theorem endsIn_append (whole ending : String) (tail : List Char)
    (split : whole.toList = ending.toList ++ tail) :
    endsIn whole (cs ++ tail) = endsIn ending cs := by
  rw [Bool.eq_iff_iff, endsIn_eq_true, endsIn_eq_true, split]
  exact List.suffix_append_self_iff

/-- A text ends in the last character of its endings. -/
theorem getLast?_of_endsIn {ending : String} {c : Char} (ends : endsIn ending cs = true)
    (last : ending.toList.getLast? = some c) : cs.getLast? = some c := by
  obtain ⟨stem, rfl⟩ := endsIn_eq_true.1 ends
  rw [List.getLast?_append, last]
  rfl

theorem not_endsIn {ending : String} {c d : Char} (here : cs.getLast? = some c)
    (last : ending.toList.getLast? = some d) (other : d ≠ c) : endsIn ending cs = false := by
  rw [← Bool.not_eq_true]
  intro ends
  have there := getLast?_of_endsIn ends last
  exact other (Option.some.inj (there.symm.trans here))

/-! ### The size of a text -/

theorem byteLength_append (as bs : List Char) :
    byteLength (as ++ bs) = byteLength as + byteLength bs := by
  induction as with
  | nil => exact (Nat.zero_add _).symm
  | cons c rest ih =>
    change c.utf8Size + byteLength (rest ++ bs) = c.utf8Size + byteLength rest + byteLength bs
    rw [ih, Nat.add_assoc]

theorem byteLength_pos : 0 < byteLength cs ↔ cs ≠ [] := by
  cases cs with
  | nil => simp [byteLength]
  | cons c rest =>
    have positive : 0 < c.utf8Size := c.utf8Size_pos
    have size : byteLength (c :: rest) = c.utf8Size + byteLength rest := rfl
    simp only [ne_eq, reduceCtorEq, not_false_eq_true, iff_true]
    omega

/-! ### The singular of a word that ends in `s` -/

/-- The endings that are cut together with the `s` behind them. -/
def silentEndings : List String := ["sse", "che", "she", "xe", "ze"]

/-- Only `ie` itself is too short to be cut. -/
theorem byteLength_gt_two (ends : endsIn "ie" cs = true) :
    2 < byteLength cs ↔ cs ≠ ['i', 'e'] := by
  obtain ⟨stem, rfl⟩ := endsIn_eq_true.1 ends
  have size : byteLength (stem ++ ['i', 'e']) = byteLength stem + 2 := byteLength_append _ _
  have alone : stem ++ ['i', 'e'] = ['i', 'e'] ↔ stem = [] := by simp
  change 2 < byteLength (stem ++ ['i', 'e']) ↔ stem ++ ['i', 'e'] ≠ ['i', 'e']
  rw [size, ne_eq, alone, ← ne_eq, ← byteLength_pos]
  omega

/-- The singular goes by what stands in front of the `s`. -/
theorem singularChars_concat (base : List Char) :
    singularChars (base ++ ['s']) =
      if endsIn "ie" base = true ∧ base ≠ ['i', 'e'] then base.take (base.length - 2) ++ ['y']
      else if silentEndings.any (endsIn · base) then base.dropLast
      else if endsIn "s" base = false ∧ base ≠ [] then base
      else base ++ ['s'] := by
  have size : byteLength (base ++ ['s']) = byteLength base + 1 := byteLength_append _ _
  have long : (endsIn "ies" (base ++ ['s']) && decide (byteLength (base ++ ['s']) > 3)) = true ↔
      endsIn "ie" base = true ∧ base ≠ ['i', 'e'] := by
    rw [endsIn_append "ies" "ie" ['s'] rfl, Bool.and_eq_true, decide_eq_true_eq, size]
    refine and_congr_right fun ends => ?_
    rw [← byteLength_gt_two ends]
    omega
  have silent : (["sses", "ches", "shes", "xes", "zes"].any (endsIn · (base ++ ['s']))) =
      silentEndings.any (endsIn · base) := by
    simp only [silentEndings, List.any_cons, List.any_nil,
      endsIn_append "sses" "sse" ['s'] rfl,
      endsIn_append "ches" "che" ['s'] rfl,
      endsIn_append "shes" "she" ['s'] rfl,
      endsIn_append "xes" "xe" ['s'] rfl,
      endsIn_append "zes" "ze" ['s'] rfl]
  have plain : (endsIn "s" (base ++ ['s']) && !endsIn "ss" (base ++ ['s']) &&
      decide (byteLength (base ++ ['s']) > 1)) = true ↔ endsIn "s" base = false ∧ base ≠ [] := by
    have ends : endsIn "s" (base ++ ['s']) = true := endsIn_eq_true.2 (List.suffix_append _ _)
    rw [ends, endsIn_append "ss" "s" ['s'] rfl, size, ← byteLength_pos]
    simp
  have front : (base ++ ['s']).take ((base ++ ['s']).length - 3) = base.take (base.length - 2) := by
    rw [List.length_append, List.length_singleton, List.take_append_of_le_length (by omega)]
    rfl
  have cut : (base ++ ['s']).take ((base ++ ['s']).length - 2) = base.dropLast := by
    rw [List.length_append, List.length_singleton, List.take_append_of_le_length (by omega),
      List.dropLast_eq_take]
    rfl
  unfold singularChars
  simp only [long, silent, plain, front, cut, List.dropLast_concat]

/-! ### The plural of a noun -/

/-- The endings besides `s` that take `es`. -/
def softEndings : List String := ["sh", "ch", "x", "z"]

theorem getLast?_of_soft (soft : softEndings.any (endsIn · cs) = true) :
    ∃ c, cs.getLast? = some c ∧ c ∈ ['h', 'x', 'z'] := by
  have lasts : ∀ ending ∈ softEndings, ending.toList.getLast? ∈ ['h', 'x', 'z'].map some := by
    decide
  obtain ⟨ending, among, ends⟩ := List.any_eq_true.1 soft
  obtain ⟨c, letter, last⟩ := List.mem_map.1 (lasts ending among)
  exact ⟨c, getLast?_of_endsIn ends last.symm, letter⟩

/-- The three ways in which a plural is made. -/
theorem pluralChars_cases (noun : List Char) :
    (∃ stem, noun = stem ++ ['y'] ∧ pluralChars noun = (stem ++ ['i', 'e']) ++ ['s']) ∨
    ((endsIn "s" noun = true ∨ softEndings.any (endsIn · noun) = true) ∧
      pluralChars noun = (noun ++ ['e']) ++ ['s']) ∨
    (endsIn "s" noun = false ∧ noun ≠ ['y'] ∧ pluralChars noun = noun ++ ['s']) := by
  unfold pluralChars
  split
  · next consonant =>
    obtain ⟨stem, rfl⟩ := endsIn_eq_true.1 ((Bool.and_eq_true_iff).1 consonant).1
    refine .inl ⟨stem, rfl, ?_⟩
    change (stem ++ ['y']).dropLast ++ _ = _
    rw [List.dropLast_concat, List.append_assoc]
    rfl
  · next other =>
    split
    · next hissing =>
      refine .inr (.inl ⟨?_, by rw [List.append_assoc]; rfl⟩)
      have split : (["s", "sh", "ch", "x", "z"].any (endsIn · noun)) =
          (endsIn "s" noun || softEndings.any (endsIn · noun)) := rfl
      rwa [split, Bool.or_eq_true] at hissing
    · next plain =>
      refine .inr (.inr ⟨?_, ?_, rfl⟩)
      · rw [← Bool.not_eq_true]
        exact fun ends => plain (List.any_eq_true.2 ⟨"s", List.mem_cons_self, ends⟩)
      · rintro rfl
        exact other (by decide)

/-! ### The noun behind the plural -/

/-- The singular of the noun's plural is the noun. -/
structure Restorable (noun : List Char) : Prop where
  present : noun ≠ []
  longer : noun ≠ ['y']
  hissing : endsIn "s" noun = true → endsIn "ss" noun = true
  short : endsIn "ie" noun = true → noun = ['i', 'e']
  sounded : silentEndings.any (endsIn · noun) = false

theorem not_silent_of_last {c : Char} (here : cs.getLast? = some c) (notE : c ≠ 'e') :
    silentEndings.any (endsIn · cs) = false := by
  have lasts : ∀ ending ∈ silentEndings, ending.toList.getLast? = some 'e' := by decide
  rw [List.any_eq_false]
  intro ending among
  rw [Bool.not_eq_true]
  exact not_endsIn here (lasts ending among) notE.symm

/-- A noun that does not end in `e` has only one `s` to fear. -/
theorem restorable_of_last {c : Char} (here : cs.getLast? = some c) (notE : c ≠ 'e')
    (longer : cs ≠ ['y']) (hissing : endsIn "s" cs = true → endsIn "ss" cs = true) :
    Restorable cs where
  present none := by rw [none] at here; cases here
  longer := longer
  hissing := hissing
  short ends := by
    rw [not_endsIn here (d := 'e') rfl notE.symm] at ends
    cases ends
  sounded := not_silent_of_last here notE

theorem singular_ies_iff (stem : List Char) :
    singularChars ((stem ++ ['i', 'e']) ++ ['s']) = stem ++ ['y'] ↔ Restorable (stem ++ ['y']) := by
  have last : (stem ++ ['y']).getLast? = some 'y' := List.getLast?_concat
  by_cases bare : stem = []
  · subst bare
    refine iff_of_false (by decide) fun restorable => restorable.longer rfl
  · have ends : endsIn "ie" (stem ++ ['i', 'e']) = true := endsIn_eq_true.2 (List.suffix_append _ _)
    have long : stem ++ ['i', 'e'] ≠ ['i', 'e'] := by simpa using bare
    refine iff_of_true ?_ (restorable_of_last last (by decide) (by simpa using bare) ?_)
    · rw [singularChars_concat, if_pos ⟨ends, long⟩, List.length_append]
      exact congrArg (· ++ ['y']) List.take_left
    · intro hissing
      rw [not_endsIn last (d := 's') rfl (by decide)] at hissing
      cases hissing

/-- With `es` behind it, the noun is found again if it ends in two `s` or none. -/
theorem singular_es_iff {noun : List Char}
    (hissing : endsIn "s" noun = true ∨ softEndings.any (endsIn · noun) = true) :
    singularChars ((noun ++ ['e']) ++ ['s']) = noun ↔ Restorable noun := by
  obtain ⟨c, here, notE, notI, notY⟩ :
      ∃ c, noun.getLast? = some c ∧ c ≠ 'e' ∧ c ≠ 'i' ∧ c ≠ 'y' := by
    rcases hissing with single | soft
    · exact ⟨'s', getLast?_of_endsIn single rfl, by decide⟩
    · obtain ⟨c, here, letter⟩ := getLast?_of_soft soft
      have others : ∀ c ∈ ['h', 'x', 'z'], c ≠ 'e' ∧ c ≠ 'i' ∧ c ≠ 'y' := by simp
      exact ⟨c, here, others c letter⟩
  have silent : silentEndings.any (endsIn · (noun ++ ['e'])) =
      (endsIn "ss" noun || softEndings.any (endsIn · noun)) := by
    simp only [silentEndings, softEndings, List.any_cons, List.any_nil,
      endsIn_append "sse" "ss" ['e'] rfl,
      endsIn_append "che" "ch" ['e'] rfl,
      endsIn_append "she" "sh" ['e'] rfl,
      endsIn_append "xe" "x" ['e'] rfl,
      endsIn_append "ze" "z" ['e'] rfl]
    rw [Bool.or_left_comm (endsIn "ch" noun)]
  have noY : noun ≠ ['y'] := by
    rintro rfl
    exact notY (Option.some.inj here).symm
  have notShort : ¬(endsIn "ie" (noun ++ ['e']) = true ∧ noun ++ ['e'] ≠ ['i', 'e']) := by
    rw [endsIn_append "ie" "i" ['e'] rfl, not_endsIn here (d := 'i') rfl notI.symm]
    simp
  have noS : endsIn "s" (noun ++ ['e']) = false :=
    not_endsIn List.getLast?_concat (d := 's') rfl (by decide)
  rw [singularChars_concat, if_neg notShort, silent, List.dropLast_concat]
  by_cases found : (endsIn "ss" noun || softEndings.any (endsIn · noun)) = true
  · rw [if_pos found]
    refine iff_of_true rfl (restorable_of_last here notE noY fun single => ?_)
    rcases Bool.or_eq_true_iff.1 found with double | soft
    · exact double
    · obtain ⟨d, there, letter⟩ := getLast?_of_soft soft
      rw [getLast?_of_endsIn single rfl] at there
      rw [← Option.some.inj there] at letter
      exact absurd letter (by decide)
  · rw [if_neg found, if_pos ⟨noS, by simp⟩]
    refine iff_of_false (by simp) fun restorable => found ?_
    exact Bool.or_eq_true_iff.2 (hissing.imp_left restorable.hissing)

theorem singular_s_iff {noun : List Char} (plain : endsIn "s" noun = false) (longer : noun ≠ ['y']) :
    singularChars (noun ++ ['s']) = noun ↔ Restorable noun := by
  rw [singularChars_concat]
  by_cases long : endsIn "ie" noun = true ∧ noun ≠ ['i', 'e']
  · rw [if_pos long]
    refine iff_of_false (fun same => ?_) fun restorable => long.2 (restorable.short long.1)
    have last := getLast?_of_endsIn (c := 'e') long.1 rfl
    rw [← same, List.getLast?_concat] at last
    cases last
  · rw [if_neg long]
    by_cases silent : silentEndings.any (endsIn · noun) = true
    · rw [if_pos silent]
      refine iff_of_false (fun same => ?_) fun restorable => ?_
      · have present : noun ≠ [] := by
          rintro rfl
          exact absurd silent (by decide)
        have shorter := congrArg List.length same
        rw [List.length_dropLast] at shorter
        have := List.length_pos_of_ne_nil present
        omega
      · rw [restorable.sounded] at silent
        cases silent
    · rw [if_neg silent]
      by_cases present : noun = []
      · rw [if_neg fun h => h.2 present]
        exact iff_of_false (by simp) fun restorable => restorable.present present
      · rw [if_pos ⟨plain, present⟩]
        refine iff_of_true rfl ⟨present, longer, fun single => ?_, fun ends => ?_, ?_⟩
        · rw [plain] at single
          cases single
        · exact not_not.1 fun other => long ⟨ends, other⟩
        · exact Bool.eq_false_iff.2 silent

/-- Exactly the restorable nouns are read back from their plural. -/
theorem singularChars_pluralChars_iff (noun : List Char) :
    singularChars (pluralChars noun) = noun ↔ Restorable noun := by
  rcases pluralChars_cases noun with ⟨stem, rfl, plural⟩ | ⟨hissing, plural⟩ | ⟨plain, longer, plural⟩
  · rw [plural, singular_ies_iff]
  · rw [plural, singular_es_iff hissing]
  · rw [plural, singular_s_iff plain longer]

end Naming

/-- The schema names neither the table of the model nor the column that its likes point at it with. -/
structure Model.DefaultNames (m : Model) : Prop where
  table : m.table = Naming.tableName m.name
  likesKey : (m.traits.likeable.options {}).foreignKey = none

theorem Likes.keyOf_of_defaultNames {m : Model} (names : m.DefaultNames) :
    keyOf m = Naming.foreignKeyForTable (Naming.tableName m.name) := by
  unfold keyOf
  rw [names.likesKey, names.table]
  rfl

namespace Naming

/-- **The column that points at the rows of the table of an entity has the name of the column that
points at the entity exactly when the noun, which is the name of the entity in snake case, is read
back from its plural. So the likes of an entity with default names point at it by the key of the
other relations for exactly these entities.** -/
theorem keysAgree_iff (entity : String) :
    (foreignKeyForTable (tableName entity) = foreignKey entity ↔
      Restorable (Text.snakeCase entity).toList) ∧
    ∀ owner likes, owner.model.name = entity → owner.model.DefaultNames →
      Likes.ofInstance owner = .ok likes →
        (likes.ownerKey = owner.model.foreignKeyName ↔
          Restorable (Text.snakeCase entity).toList) := by
  have agree : foreignKeyForTable (tableName entity) = foreignKey entity ↔
      Restorable (Text.snakeCase entity).toList := by
    rw [← singularChars_pluralChars_iff]
    unfold foreignKeyForTable tableName foreignKey singularize pluralize
    rw [String.append_left_inj, String.toList_ofList, ← String.toList_inj, String.toList_ofList]
  refine ⟨agree, ?_⟩
  rintro owner likes rfl names known
  obtain ⟨id, rfl⟩ := Likes.eq_of_ofInstance known
  change Likes.keyOf owner.model = foreignKey owner.model.name ↔ _
  rw [Likes.keyOf_of_defaultNames names, agree]

/-- Gift cards that can be liked. -/
def likedGiftCard : Model :=
  .bare "GiftCard" "gift_cards" [] { likeable := .enabled true }

theorem keysAgree_giftCard :
    likedGiftCard.DefaultNames ∧
    Likes.ofInstance (.saved likedGiftCard 1) = .ok ⟨"gift_cards_likes", "gift_card_id", 1⟩ ∧
    Restorable (Text.snakeCase "GiftCard").toList ∧
    foreignKeyForTable (tableName "GiftCard") = foreignKey "GiftCard" ∧
    "gift_card_id" = likedGiftCard.foreignKeyName := by
  have names : likedGiftCard.DefaultNames := ⟨by decide, rfl⟩
  have known : Likes.ofInstance (.saved likedGiftCard 1) =
      .ok ⟨"gift_cards_likes", "gift_card_id", 1⟩ := by
    have key : (Instance.saved likedGiftCard 1).id? = some 1 := Instance.id?_saved rfl (by decide)
    rw [Likes.ofInstance_ok rfl key]
    exact congrArg Except.ok (by decide)
  have restorable : Restorable (Text.snakeCase "GiftCard").toList :=
    ⟨by decide, by decide, by decide, by decide, by decide⟩
  obtain ⟨agree, likes⟩ := keysAgree_iff "GiftCard"
  exact ⟨names, known, restorable, agree.2 restorable, (likes _ _ rfl names known).2 restorable⟩

/-- A bus has the table `buses`, which is read as the plural of `buse`. -/
theorem not_keysAgree_bus :
    foreignKeyForTable (tableName "Bus") ≠ foreignKey "Bus" := by
  decide

end Naming

end EntityStore
