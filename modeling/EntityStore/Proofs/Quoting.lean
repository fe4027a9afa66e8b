import EntityStore.Sql.Render

/-!
# What identifiers leave in SQL

An identifier is refused, or it is written with the characters of plain names: letters, digits, the
underscore, the point, the star, quotes and blanks, and it does not begin with a digit
(`Sql.quoteIdentifier_name`). Refusals are errors of the query (`Sql.Yields`).
-/

namespace EntityStore.Sql

/-- The computation answers something with the property, or it fails because the query is not
accepted. -/
def Yields {α : Type} (P : α → Prop) : Except Error α → Prop
  | .ok a => P a
  | .error e => e.kind = .invalidQueryCondition

namespace Yields

variable {α β : Type} {P : α → Prop} {Q : β → Prop}

theorem ok {a : α} (h : P a) : Yields P (.ok a) := h

theorem bind {x : Except Error α} {next : α → Except Error β} (first : Yields P x)
    (rest : ∀ a, P a → Yields Q (next a)) : Yields Q (x >>= next) := by
  cases x with
  | error e => exact first
  | ok a => exact rest a first

theorem map {x : Except Error α} {f : α → β} (h : Yields P x) (maps : ∀ a, P a → Q (f a)) :
    Yields Q (x.map f) := by
  cases x with
  | error e => exact h
  | ok a => exact maps a h

theorem mono {x : Except Error α} {P' : α → Prop} (h : Yields P x) (weaker : ∀ a, P a → P' a) :
    Yields P' x := by
  cases x with
  | error e => exact h
  | ok a => exact weaker a h

theorem and {x : Except Error α} {P' : α → Prop} (h : Yields P x) (h' : Yields P' x) :
    Yields (fun a => P a ∧ P' a) x := by
  cases x with
  | error e => exact h
  | ok a => exact ⟨h, h'⟩

/-- What every element of a list yields, all of them yield. -/
theorem mapM {l : List α} {f : α → Except Error β} (h : ∀ a ∈ l, Yields Q (f a)) :
    Yields (fun results => ∀ b ∈ results, Q b) (l.mapM f) := by
  induction l with
  | nil =>
    rw [List.mapM_nil]
    exact ok fun _ h => nomatch h
  | cons a rest ih =>
    rw [List.mapM_cons]
    refine bind (h a List.mem_cons_self) fun b hb => ?_
    refine bind (ih fun c hc => h c (List.mem_cons_of_mem _ hc)) fun results hresults => ?_
    refine ok fun c hc => ?_
    rcases List.mem_cons.1 hc with rfl | hc
    · exact hb
    · exact hresults c hc

end Yields

/-- The characters of which identifiers are written. -/
def isNameChar (c : Char) : Bool :=
  c.isAlphanum || ['_', '.', '*', '"', ' '].contains c

/-- The text does not begin with a digit. -/
def Undigited (cs : List Char) : Prop :=
  ∀ c ∈ cs.head?, c.isDigit = false

instance (cs : List Char) : Decidable (Undigited cs) :=
  decidable_of_iff (cs.head?.all (fun c => !c.isDigit) = true) (by cases cs <;> simp [Undigited])

namespace Undigited

variable {a b : List Char}

theorem nil : Undigited [] := fun _ h => nomatch h

theorem append (first : Undigited a) (rest : Undigited b) : Undigited (a ++ b) := by
  cases a with
  | nil => exact rest
  | cons c a => exact first

theorem takeWhile (h : Undigited a) : a.takeWhile Char.isDigit = [] := by
  cases a with
  | nil => rfl
  | cons c a => rw [List.takeWhile_cons, h c rfl, if_neg Bool.false_ne_true]

end Undigited

/-- A text of the characters of identifiers that does not begin with a digit. -/
structure Name (cs : List Char) : Prop where
  chars : ∀ c ∈ cs, isNameChar c = true
  head : Undigited cs

instance (cs : List Char) : Decidable (Name cs) :=
  decidable_of_iff (cs.all isNameChar = true ∧ Undigited cs)
    ⟨fun h => ⟨List.all_eq_true.1 h.1, h.2⟩, fun h => ⟨List.all_eq_true.2 h.chars, h.head⟩⟩

namespace Name

variable {a b : List Char}

theorem nil : Name [] := ⟨fun _ h => (nomatch h), .nil⟩

theorem append (first : Name a) (rest : Name b) : Name (a ++ b) where
  chars c hc := (List.mem_append.1 hc).elim (first.chars c) (rest.chars c)
  head := first.head.append rest.head

/-- Names joined by points. -/
theorem intercalate {segments : List (List Char)} (h : ∀ cs ∈ segments, Name cs) :
    Name (List.intercalate ['.'] segments) := by
  have point : Name ['.'] := by decide
  induction segments with
  | nil => exact nil
  | cons first rest ih =>
    have named := h first List.mem_cons_self
    cases rest with
    | nil => simpa [List.intercalate] using named
    | cons second rest =>
      have more := ih fun cs hcs => h cs (List.mem_cons_of_mem _ hcs)
      have joined : List.intercalate ['.'] (first :: second :: rest) =
          first ++ (['.'] ++ List.intercalate ['.'] (second :: rest)) := rfl
      rw [joined]
      exact named.append (point.append more)

/-- A part that is plain. -/
theorem of_segment {cs : List Char} (h : isPlainSegment cs = true) : Name cs := by
  unfold isPlainSegment at h
  rcases Bool.or_eq_true_iff.1 h with star | plain
  · rw [eq_of_beq star]
    decide
  · simp only [Bool.and_eq_true, Bool.not_eq_true', List.all_eq_true] at plain
    obtain ⟨⟨_, chars⟩, head⟩ := plain
    refine ⟨fun c hc => ?_, fun c hc => ?_⟩
    · have := chars c hc
      unfold isNameChar
      rcases Bool.or_eq_true_iff.1 this with letter | underscore
      · rw [letter, Bool.true_or]
      · rw [eq_of_beq underscore]
        decide
    · rw [hc] at head
      exact head

theorem quoteSegment {cs : List Char} (h : Name cs) : Name (Sql.quoteSegment cs) := by
  have quote : Name ['"'] := by decide
  unfold Sql.quoteSegment
  split
  · exact (quote.append h).append quote
  · exact h

end Name

/-- The parts of a plain name are plain, and it is made up of them. -/
theorem name_of_plain {cs : List Char} (h : isPlainName cs = true) :
    Name (Text.trimChars cs) ∧ ∀ segment ∈ segmentsOf (Text.trimChars cs), Name segment := by
  have plain : ∀ segment ∈ segmentsOf (Text.trimChars cs), isPlainSegment segment = true :=
    List.all_eq_true.1 (Bool.and_eq_true_iff.1 h).2
  have segments : ∀ segment ∈ segmentsOf (Text.trimChars cs), Name segment :=
    fun segment hs => .of_segment (plain segment hs)
  refine ⟨?_, segments⟩
  -- The parts make up the whole text again, so it has no other characters than theirs and points.
  have joined : List.intercalate ['.'] (segmentsOf (Text.trimChars cs)) = Text.trimChars cs :=
    List.intercalate_splitOn '.'
  rw [← joined]
  exact .intercalate segments

/-- An identifier is refused, or it is written as a name. -/
theorem quoteIdentifier_name (identifier : String) :
    Yields (fun quoted => Name quoted.toList) (quoteIdentifier identifier) := by
  unfold quoteIdentifier validateIdentifier
  by_cases valid : isValidIdentifier identifier = true
  · rw [if_pos valid]
    unfold isValidIdentifier at valid
    generalize splitAs identifier.toList = parts at valid
    obtain ⟨source, label⟩ := parts
    simp only [Bool.and_eq_true] at valid
    obtain ⟨⟨_, plainSource⟩, plainLabel⟩ := valid
    have quoted : Name (List.intercalate ['.']
        ((segmentsOf (Text.trimChars source)).map Sql.quoteSegment)) := by
      refine .intercalate fun cs hcs => ?_
      obtain ⟨segment, hs, rfl⟩ := List.mem_map.1 hcs
      exact ((name_of_plain plainSource).2 segment hs).quoteSegment
    cases label with
    | none =>
      refine Yields.ok ?_
      simpa using quoted
    | some label =>
      have word : Name " AS ".toList := by decide
      have named : Name (Sql.quoteSegment (Text.trimChars label)) :=
        (name_of_plain plainLabel).1.quoteSegment
      refine Yields.ok ?_
      simpa using (quoted.append word).append named
  · rw [if_neg valid]
    rfl

end EntityStore.Sql
