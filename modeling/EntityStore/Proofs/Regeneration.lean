import EntityStore.Proofs.Declared
import EntityStore.Proofs.FacadeText
import Mathlib.Data.String.Basic

/-!
# Generating files again

What a run of the generator leaves in a folder is what the next run wants there. The file of a model
holds a settled text (`Folder.Regenerated`) once it is written, and stays so while the files of
other models are written, since every module has a file of its own. A second run writes every file
with the text that it holds: main result `Folder.generate_again`.
-/

namespace EntityStore

namespace Text

open String in
/-- The cutting goes on to the end of a text without slashes. -/
theorem splitOnAux_unslashed {l r : List Char} (plain : '/' ∉ r) :
    splitOnAux (ofList (l ++ r)) "/" 0 ⟨utf8Len l⟩ 0 [] = [ofList (l ++ r)] := by
  induction r generalizing l with
  | nil =>
    have whole := extract_of_valid [] l []
    rw [splitOnAux, if_pos ((atEnd_of_valid l []).2 rfl)]
    simpa using whole
  | cons c r ih =>
    rw [List.mem_cons, not_or] at plain
    have inside : ¬Pos.Raw.atEnd (ofList (l ++ c :: r)) ⟨utf8Len l⟩ = true :=
      fun ended => List.cons_ne_nil c r ((atEnd_of_valid l (c :: r)).1 ended)
    have here : Pos.Raw.get (ofList (l ++ c :: r)) ⟨utf8Len l⟩ = c := get_of_valid l (c :: r)
    have mark : Pos.Raw.get "/" 0 = '/' := by decide
    have rest := ih (l := l ++ [c]) plain.2
    rw [List.append_assoc, List.singleton_append] at rest
    rw [splitOnAux, if_neg inside, here, mark, if_neg (by simpa using Ne.symm plain.1)]
    have step : ((⟨utf8Len l⟩ : Pos.Raw).unoffsetBy 0).next (ofList (l ++ c :: r)) =
        ⟨utf8Len (l ++ [c])⟩ := by
      have next := next_of_valid l c r
      change Pos.Raw.next _ ⟨utf8Len l - 0⟩ = _
      rw [Nat.sub_zero, next]
      simp [utf8Len_append]
    rw [step]
    exact rest

theorem splitOn_unslashed {s : String} (plain : '/' ∉ s.toList) : s.splitOn "/" = [s] := by
  have whole := splitOnAux_unslashed (l := []) plain
  rw [List.nil_append, String.ofList_toList] at whole
  exact whole

end Text

namespace Folder

/-! ### The files of modules -/

/-- A name without slashes leads straight to its file. -/
theorem pathOf_unslashed {file : String} (plain : '/' ∉ file.toList) :
    pathOf file = ⟨false, [], file⟩ := by
  have unrooted : file.startsWith "/" = false := by
    rw [Bool.eq_false_iff, Ne, String.startsWith_string_iff]
    exact fun rooted => plain (rooted.subset (by decide))
  rw [pathOf, Text.splitOn_unslashed plain, unrooted]
  rfl

theorem unslashed_moduleFile {name : String} (plain : '/' ∉ name.toList) :
    '/' ∉ (moduleFile name).toList := by
  rw [moduleFile, String.toList_append, List.mem_append, not_or]
  exact ⟨plain, by decide⟩

theorem moduleFile_injective {name other : String} (same : moduleFile name = moduleFile other) :
    name = other := by
  have chars := congrArg String.toList same
  rw [moduleFile, moduleFile, String.toList_append, String.toList_append,
    List.append_cancel_right_eq] at chars
  exact String.toList_inj.1 chars

/-! ### Writing a file -/

section

variable {path other : List String} {content : String}

theorem lookup_map_of_eq {files : List (List String × String)}
    (there : (files.lookup path).isSome = true) :
    (files.map fun file => if file.1 = path then (path, content) else file).lookup path =
      some content := by
  induction files with
  | nil => cases there
  | cons first rest ih =>
    rw [List.map_cons]
    by_cases own : first.1 = path
    · rw [if_pos own, List.lookup_cons_self]
    · rw [if_neg own, List.lookup_cons, beq_false_of_ne (Ne.symm own)]
      rw [List.lookup_cons, beq_false_of_ne (Ne.symm own)] at there
      exact ih there

theorem lookup_map_of_ne (different : other ≠ path) (files : List (List String × String)) :
    (files.map fun file => if file.1 = path then (path, content) else file).lookup other =
      files.lookup other := by
  induction files with
  | nil => rfl
  | cons first rest ih =>
    rw [List.map_cons, List.lookup_cons, List.lookup_cons, ih]
    by_cases own : first.1 = path
    · rw [if_pos own, own]
      rw [beq_false_of_ne different]
    · rw [if_neg own]

/-- A file holds what was put into it. -/
theorem read?_put (folder : Folder) (path : List String) (content : String) :
    (folder.put path content).read? path = some content := by
  unfold put read?
  dsimp only
  split
  · next there => exact lookup_map_of_eq there
  · next missing =>
    rw [List.lookup_append, Option.not_isSome_iff_eq_none.1 missing, Option.none_or,
      List.lookup_cons_self]

/-- Other files are left alone. -/
theorem read?_put_of_ne (different : other ≠ path) (folder : Folder) (content : String) :
    (folder.put path content).read? other = folder.read? other := by
  unfold put read?
  dsimp only
  split
  · exact lookup_map_of_ne different _
  · rw [List.lookup_append, List.lookup_cons, beq_false_of_ne different, List.lookup_nil,
      Option.or_none]

end

/-- A file of this name can be written into the folder. -/
structure Takes (folder : Folder) (file : String) : Prop where
  short : 0 + 1 + file.utf8ByteSize ≤ longestPath
  named : isFileName file = true
  free : folder.isFolder [file] = false

instance (folder : Folder) (file : String) : Decidable (folder.Takes file) :=
  decidable_of_iff (0 + 1 + file.utf8ByteSize ≤ longestPath ∧ isFileName file = true ∧
    folder.isFolder [file] = false)
    ⟨fun ⟨short, named, free⟩ => ⟨short, named, free⟩,
      fun ⟨short, named, free⟩ => ⟨short, named, free⟩⟩

/-- The file can be written and holds the text. -/
structure Holds (folder : Folder) (file text : String) : Prop where
  takes : folder.Takes file
  held : folder.read? [file] = some text

section

variable {folder after : Folder} {file text : String} {changed : Bool}

/-- What writing a file of the folder itself does. -/
theorem write_eq_ok :
    folder.write ⟨false, [], file⟩ text = .ok (changed, after) ↔ folder.Takes file ∧
      (changed, after) = if folder.read? [file] = some text then (false, folder)
        else (true, folder.put [file] text) := by
  have answers : folder.write ⟨false, [], file⟩ text =
      if longestPath < 0 + 1 + file.utf8ByteSize || !isFileName file then .error .unusable
      else if folder.isFolder [file] then .error .unusable
      else .ok (if folder.read? [file] = some text then (false, folder)
        else (true, folder.put [file] text)) := by
    by_cases refused : (longestPath < 0 + 1 + file.utf8ByteSize || !isFileName file) = true
    · rw [if_pos refused]
      exact if_pos refused
    · rw [if_neg refused, apply_ite Except.ok]
      exact if_neg refused
  rw [answers]
  constructor
  · intro h
    split at h
    · cases h
    · next usable =>
      split at h
      · cases h
      · next free =>
        rw [Bool.or_eq_true, not_or, decide_eq_true_eq, Bool.not_eq_true', Bool.not_eq_false,
          Nat.not_lt] at usable
        exact ⟨⟨usable.1, usable.2, Bool.not_eq_true _ ▸ free⟩, (Except.ok.inj h).symm⟩
  · rintro ⟨⟨short, named, free⟩, same⟩
    rw [same, if_neg, if_neg]
    · rw [free]
      exact Bool.false_ne_true
    · rw [Bool.or_eq_true, not_or, decide_eq_true_eq, Bool.not_eq_true', Bool.not_eq_false,
        Nat.not_lt]
      exact ⟨short, named⟩

theorem Takes.write (takes : folder.Takes file) (text : String) :
    ∃ changed after, folder.write ⟨false, [], file⟩ text = .ok (changed, after) :=
  ⟨_, _, write_eq_ok.2 ⟨takes, rfl⟩⟩

/-- A file that holds its text is not written. -/
theorem Holds.write_again (holds : folder.Holds file text) :
    folder.write ⟨false, [], file⟩ text = .ok (false, folder) :=
  write_eq_ok.2 ⟨holds.takes, (if_pos holds.held).symm⟩

theorem holds_of_write (h : folder.write ⟨false, [], file⟩ text = .ok (changed, after)) :
    after.Holds file text := by
  obtain ⟨⟨short, named, free⟩, same⟩ := write_eq_ok.1 h
  split at same
  · next held =>
    cases same
    exact ⟨⟨short, named, free⟩, held⟩
  · cases same
    exact ⟨⟨short, named, free⟩, read?_put _ _ _⟩

section

variable {other : String}

/-- Writing a file makes no folder. -/
theorem Takes.of_write (takes : folder.Takes other)
    (h : folder.write ⟨false, [], file⟩ text = .ok (changed, after)) : after.Takes other := by
  obtain ⟨short, named, free⟩ := takes
  have same := (write_eq_ok.1 h).2
  split at same <;>
  · cases same
    exact ⟨short, named, free⟩

/-- Writing one file leaves the others as they are. -/
theorem read?_of_write (different : other ≠ file)
    (h : folder.write ⟨false, [], file⟩ text = .ok (changed, after)) :
    after.read? [other] = folder.read? [other] := by
  have same := (write_eq_ok.1 h).2
  split at same
  · cases same
    rfl
  · cases same
    exact read?_put_of_ne (fun here => different (List.singleton_inj.1 here)) _ _

theorem Holds.of_write {text' : String} (holds : folder.Holds other text')
    (different : other ≠ file)
    (h : folder.write ⟨false, [], file⟩ text = .ok (changed, after)) : after.Holds other text' :=
  ⟨holds.takes.of_write h, (read?_of_write different h).trans holds.held⟩

end

end

/-- Writing a file of the folder itself with its blocks carried over. -/
theorem writeKeepingBlocks_eq (folder : Folder) (file content : String) :
    folder.writeKeepingBlocks ⟨false, [], file⟩ content =
      match folder.read? [file] with
      | none => folder.write ⟨false, [], file⟩ content
      | some present =>
        match Block.merge present.toList content.toList with
        | .ok merged => folder.write ⟨false, [], file⟩ (String.ofList merged)
        | .error block => .error (.marker file block) :=
  rfl

theorem noteWritten_eq_ok {answer : Except FacadeError (Bool × Folder)} {file : String}
    {written written' : List String} {after : Folder} :
    answer.map (noteWritten written file) = .ok (written', after) ↔
      ∃ changed, answer = .ok (changed, after) ∧
        written' = if changed then written ++ [file] else written := by
  cases answer with
  | error e => exact ⟨fun h => (nomatch h), fun ⟨_, h, _⟩ => (nomatch h)⟩
  | ok answer =>
    obtain ⟨changed, folder⟩ := answer
    constructor
    · intro h
      cases h
      exact ⟨changed, rfl, rfl⟩
    · rintro ⟨_, h, rfl⟩
      cases h
      rfl

/-! ### The file of a model -/

/-- The file of a model. -/
def fileOf (m : Model) : String :=
  moduleFile (Facade.moduleName m)

/-- The file of a model holds a settled text. -/
def Regenerated (folder : Folder) (m : Model) : Prop :=
  ∃ text, folder.Holds (fileOf m) text ∧
    Block.Settled (Facade.head m) (Facade.moduleName m).toList text.toList

/-- Models whose modules have distinct names have files of their own. -/
theorem moduleName_ne {first other : Model} {rest : List Model}
    (distinct : ((first :: rest).map Facade.moduleName).Nodup) (mem : other ∈ rest) :
    Facade.moduleName first ≠ Facade.moduleName other := by
  rw [List.map_cons, List.nodup_cons] at distinct
  intro same
  rw [same] at distinct
  exact distinct.1 (List.mem_map_of_mem mem)

theorem pathOf_fileOf (m : Model) : pathOf (fileOf m) = ⟨false, [], fileOf m⟩ :=
  pathOf_unslashed (unslashed_moduleFile
    (Text.not_mem_snakeCase (by decide) (by decide +kernel) (by decide) m.name))

theorem pathOf_index : pathOf (moduleFile "mod") = ⟨false, [], moduleFile "mod"⟩ :=
  pathOf_unslashed (by decide)

/-- The facade of a model is written to a file of the folder itself. -/
theorem writeFacade_eq : writeFacade = fun state m =>
    (state.2.writeKeepingBlocks ⟨false, [], fileOf m⟩ (Facade.ofModel m).source).map
      (noteWritten state.1 (fileOf m)) := by
  funext state m
  rw [← pathOf_fileOf]
  rfl

section

variable {m : Model} {written written' : List String} {folder after : Folder}

/-- Writing the facade of a model is writing its file with a text that has settled or, when the file
was there, with what its blocks are carried over into. -/
theorem write_of_writeFacade (unmarked : m.Unmarked)
    (h : writeFacade (written, folder) m = .ok (written', after)) :
    ∃ text changed, Block.Settled (Facade.head m) (Facade.moduleName m).toList text.toList ∧
      folder.write ⟨false, [], fileOf m⟩ text = .ok (changed, after) := by
  rw [writeFacade_eq] at h
  obtain ⟨changed, wrote, -⟩ := noteWritten_eq_ok.1 h
  rw [writeKeepingBlocks_eq] at wrote
  split at wrote
  · refine ⟨_, changed, ?_, wrote⟩
    rw [Facade.toList_source]
    exact Block.settled_new _ _
  · split at wrote
    · next present _ merged carried =>
      refine ⟨_, changed, ?_, wrote⟩
      rw [Facade.toList_source] at carried
      rw [String.toList_ofList]
      exact Block.settled_of_merge (Facade.isFrame_head unmarked) carried
    · cases wrote

/-- After its facade is written the file of a model holds a settled text. -/
theorem regenerated_of_writeFacade (unmarked : m.Unmarked)
    (h : writeFacade (written, folder) m = .ok (written', after)) : after.Regenerated m := by
  obtain ⟨text, changed, settled, wrote⟩ := write_of_writeFacade unmarked h
  exact ⟨text, holds_of_write wrote, settled⟩

/-- The facade of another model does not touch the file. -/
theorem Regenerated.of_writeFacade {other : Model} (done : folder.Regenerated m)
    (unmarked : other.Unmarked) (different : Facade.moduleName m ≠ Facade.moduleName other)
    (h : writeFacade (written, folder) other = .ok (written', after)) : after.Regenerated m := by
  obtain ⟨text, holds, settled⟩ := done
  obtain ⟨text', changed, -, wrote⟩ := write_of_writeFacade unmarked h
  exact ⟨text, holds.of_write (fun same => different (moduleFile_injective same)) wrote, settled⟩

/-- A settled text is not written again. -/
theorem Regenerated.write_again (done : folder.Regenerated m) (unmarked : m.Unmarked)
    (written : List String) : writeFacade (written, folder) m = .ok (written, folder) := by
  obtain ⟨text, holds, settled⟩ := done
  have kept := Block.merge_settled (Facade.isFrame_head unmarked) settled
  have again : folder.writeKeepingBlocks ⟨false, [], fileOf m⟩ (Facade.ofModel m).source =
      .ok (false, folder) := by
    rw [writeKeepingBlocks_eq, holds.held, Facade.toList_source]
    dsimp only
    rw [kept]
    dsimp only
    rw [String.ofList_toList]
    exact holds.write_again
  rw [writeFacade_eq]
  exact noteWritten_eq_ok.2 ⟨false, again, rfl⟩

end

/-! ### When the generator succeeds -/

section

variable {models : List Model} {written written' : List String} {folder after : Folder}

/-- The file of the model can be written, and if it is there its blocks can be carried over. -/
structure Ready (folder : Folder) (m : Model) : Prop where
  takes : folder.Takes (fileOf m)
  matched : ∀ present ∈ folder.read? [fileOf m],
    (Block.bodies (Block.scan present.toList)).toOption.isSome = true

instance (folder : Folder) (m : Model) : Decidable (folder.Ready m) :=
  decidable_of_iff (folder.Takes (fileOf m) ∧ ∀ present ∈ folder.read? [fileOf m],
    (Block.bodies (Block.scan present.toList)).toOption.isSome = true)
    ⟨fun ⟨takes, matched⟩ => ⟨takes, matched⟩, fun ⟨takes, matched⟩ => ⟨takes, matched⟩⟩

theorem Ready.writeFacade_ok {m : Model} (ready : folder.Ready m) (written : List String) :
    ∃ written' after, writeFacade (written, folder) m = .ok (written', after) := by
  suffices answers : ∃ changed after, folder.writeKeepingBlocks ⟨false, [], fileOf m⟩
      (Facade.ofModel m).source = .ok (changed, after) by
    obtain ⟨changed, after, answered⟩ := answers
    rw [writeFacade_eq]
    exact ⟨_, after, noteWritten_eq_ok.2 ⟨changed, answered, rfl⟩⟩
  rw [writeKeepingBlocks_eq]
  cases held : folder.read? [fileOf m] with
  | none => exact ready.takes.write _
  | some present =>
    obtain ⟨blocks, carried⟩ := Option.isSome_iff_exists.1 (ready.matched present held)
    dsimp only
    rw [Block.merge, Except.eq_ok_of_toOption carried]
    exact ready.takes.write _

theorem Ready.of_writeFacade {m other : Model} (ready : folder.Ready m) (unmarked : other.Unmarked)
    (different : Facade.moduleName m ≠ Facade.moduleName other)
    (h : writeFacade (written, folder) other = .ok (written', after)) : after.Ready m := by
  obtain ⟨text, changed, -, wrote⟩ := write_of_writeFacade unmarked h
  have kept := read?_of_write (fun same => different (moduleFile_injective same)) wrote
  exact ⟨ready.takes.of_write wrote, fun present held => ready.matched present (kept ▸ held)⟩

theorem exists_foldlM_writeFacade (distinct : (models.map Facade.moduleName).Nodup)
    (unmarked : ∀ m ∈ models, m.Unmarked) (ready : ∀ m ∈ models, folder.Ready m) {file : String}
    (takes : folder.Takes file) (written : List String) :
    ∃ written' after, models.foldlM writeFacade (written, folder) = .ok (written', after) ∧
      after.Takes file := by
  induction models generalizing written folder with
  | nil => exact ⟨written, folder, rfl, takes⟩
  | cons first rest ih =>
    have unmarkedFirst := unmarked first List.mem_cons_self
    obtain ⟨written₁, folder₁, wrote⟩ := (ready first List.mem_cons_self).writeFacade_ok written
    have readyRest : ∀ m ∈ rest, folder₁.Ready m := fun m mem =>
      (ready m (List.mem_cons_of_mem _ mem)).of_writeFacade unmarkedFirst
        (moduleName_ne distinct mem).symm wrote
    obtain ⟨text, changed, -, write⟩ := write_of_writeFacade unmarkedFirst wrote
    obtain ⟨written', after, later, taken⟩ := ih (List.nodup_cons.1 distinct).2
      (fun m mem => unmarked m (List.mem_cons_of_mem _ mem)) readyRest (takes.of_write write)
      written₁
    refine ⟨written', after, ?_, taken⟩
    rw [List.foldlM_cons]
    exact Except.bind_eq_ok.2 ⟨_, wrote, later⟩

/-- The generator succeeds in a folder that takes all files and in which no block is closed under
another name. -/
theorem generate_ok {r : Registry} (distinct : (r.models.map Facade.moduleName).Nodup)
    (unmarked : ∀ m ∈ r.models, m.Unmarked) (ready : ∀ m ∈ r.models, folder.Ready m)
    (takes : folder.Takes (moduleFile "mod")) :
    ∃ written after, folder.generate r = .ok (written, after) := by
  obtain ⟨written, folder₁, facades, takes⟩ :=
    exists_foldlM_writeFacade distinct unmarked ready takes []
  obtain ⟨changed, after, wrote⟩ := takes.write (Facade.indexSource r)
  refine ⟨_, after, Except.bind_eq_ok.2 ⟨_, facades, noteWritten_eq_ok.2 ⟨changed, ?_, rfl⟩⟩⟩
  rw [pathOf_index, wrote]

/-! ### Running the generator again -/

theorem Regenerated.of_foldlM {m : Model} (done : folder.Regenerated m)
    (unmarked : ∀ other ∈ models, other.Unmarked)
    (different : ∀ other ∈ models, Facade.moduleName m ≠ Facade.moduleName other)
    (h : models.foldlM writeFacade (written, folder) = .ok (written', after)) :
    after.Regenerated m := by
  induction models generalizing written folder with
  | nil =>
    cases h
    exact done
  | cons first rest ih =>
    rw [List.foldlM_cons] at h
    obtain ⟨⟨written₁, folder₁⟩, wrote, later⟩ := Except.bind_eq_ok.1 h
    exact ih
      (done.of_writeFacade (unmarked first List.mem_cons_self) (different first List.mem_cons_self)
        wrote)
      (fun other mem => unmarked other (List.mem_cons_of_mem _ mem))
      (fun other mem => different other (List.mem_cons_of_mem _ mem)) later

/-- After the facades of all models are written, the file of each one holds a settled text. -/
theorem regenerated_of_foldlM (distinct : (models.map Facade.moduleName).Nodup)
    (unmarked : ∀ m ∈ models, m.Unmarked)
    (h : models.foldlM writeFacade (written, folder) = .ok (written', after)) :
    ∀ m ∈ models, after.Regenerated m := by
  induction models generalizing written folder with
  | nil => exact fun _ none => nomatch none
  | cons first rest ih =>
    rw [List.foldlM_cons] at h
    obtain ⟨⟨written₁, folder₁⟩, wrote, later⟩ := Except.bind_eq_ok.1 h
    have unmarkedRest : ∀ m ∈ rest, m.Unmarked :=
      fun m mem => unmarked m (List.mem_cons_of_mem _ mem)
    have wrote' := regenerated_of_writeFacade (unmarked first List.mem_cons_self) wrote
    refine List.forall_mem_cons.2 ⟨?_, ih (List.nodup_cons.1 distinct).2 unmarkedRest later⟩
    exact wrote'.of_foldlM unmarkedRest (fun other mem => moduleName_ne distinct mem) later

/-- Where all files hold settled texts, no facade is written. -/
theorem foldlM_writeFacade_of_regenerated (done : ∀ m ∈ models, folder.Regenerated m)
    (unmarked : ∀ m ∈ models, m.Unmarked) (written : List String) :
    models.foldlM writeFacade (written, folder) = .ok (written, folder) := by
  induction models with
  | nil => rfl
  | cons first rest ih =>
    rw [List.foldlM_cons,
      (done first List.mem_cons_self).write_again (unmarked first List.mem_cons_self)]
    exact ih (fun m mem => done m (List.mem_cons_of_mem _ mem))
      fun m mem => unmarked m (List.mem_cons_of_mem _ mem)

/-- **Running the generator again writes no file and leaves every file as it is**, whatever the
folder held before the first run. -/
theorem generate_again {r : Registry} (distinct : (r.models.map Facade.moduleName).Nodup)
    (apart : ∀ m ∈ r.models, Facade.moduleName m ≠ "mod") (unmarked : ∀ m ∈ r.models, m.Unmarked)
    (h : folder.generate r = .ok (written, after)) : after.generate r = .ok ([], after) := by
  obtain ⟨⟨written₁, folder₁⟩, facades, index⟩ := Except.bind_eq_ok.1 h
  obtain ⟨changed, wrote, -⟩ := noteWritten_eq_ok.1 index
  rw [pathOf_index] at wrote
  have done : ∀ m ∈ r.models, after.Regenerated m := by
    intro m mem
    obtain ⟨text, holds, settled⟩ := regenerated_of_foldlM distinct unmarked facades m mem
    exact ⟨text, holds.of_write (fun same => apart m mem (moduleFile_injective same)) wrote,
      settled⟩
  refine Except.bind_eq_ok.2 ⟨_, foldlM_writeFacade_of_regenerated done unmarked [], ?_⟩
  refine noteWritten_eq_ok.2 ⟨false, ?_, rfl⟩
  rw [pathOf_index]
  exact (holds_of_write wrote).write_again

end

/-- Notes that belong to users. -/
def noted : Catalogue where
  schemas :=
    [{ name := "User", table := some "users", attributes := [("email", {})] },
      { name := "Note", table := some "notes", attributes := [("title", {})]
        relations := { belongsTo := [{ entity := "User" }] } }]

/-- A folder in which the notes have a file: code written by hand, between text that will not be
there again. -/
def noting : Folder where
  files :=
    [(["note.rs"], "fn old() \x7b\x7d\n// <<<FORGE:BEGIN custom:note>>>\n// kept: <<<FORGE\n" ++
      "// <<<FORGE:END custom:note>>>\n// <<<FORGE:BEGIN custom:other>>>\n")]

theorem generate_again_noting :
    ∃ r written after, noted.compile = .ok r ∧ noting.generate r = .ok (written, after) ∧
      after.generate r = .ok ([], after) := by
  have compiles : noted.compile.toOption.isSome = true := by decide +kernel
  obtain ⟨r, compiled⟩ := Option.isSome_iff_exists.1 compiles
  have facts : ∀ r ∈ noted.compile.toOption, (r.models.map Facade.moduleName).Nodup ∧
      (∀ m ∈ r.models, Facade.moduleName m ≠ "mod") ∧ (∀ m ∈ r.models, m.Unmarked) ∧
      (∀ m ∈ r.models, noting.Ready m) := by
    decide +kernel
  obtain ⟨distinct, apart, unmarked, ready⟩ := facts r compiled
  obtain ⟨written, after, generated⟩ := generate_ok distinct unmarked ready (by decide +kernel)
  exact ⟨r, written, after, Except.eq_ok_of_toOption compiled, generated,
    generate_again distinct apart unmarked generated⟩

end Folder

end EntityStore
