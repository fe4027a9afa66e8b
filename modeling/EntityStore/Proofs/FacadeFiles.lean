import EntityStore.Proofs.Regeneration
import Mathlib.Data.List.Nodup

/-!
# A file for every facade

What a first run of the generator leaves in a folder without files. The facade of a model goes as it
is into a file that is not there yet (`Folder.held_of_writeFacade`), and the file keeps it as long
as neither a later model nor the index of modules is written to the same place. Main result
`Folder.keepsFacades_iff`: every model keeps its facade exactly when the names of the modules are
distinct and none of them is the name of the index.
-/

namespace EntityStore

namespace Facade

/-! ### The index of modules -/

/-- The lines of a text. -/
def linesOf (text : String) : List String :=
  (text.toList.splitOn '\n').map String.ofList

/-- The line that declares a module. -/
def declaration (name : String) : String :=
  "pub mod " ++ name ++ ";"

/-- How often the text declares the module. -/
def declarations (text name : String) : Nat :=
  (linesOf text).count (declaration name)

theorem linesOf_lines {ls : List String} (unbroken : ∀ l ∈ ls, '\n' ∉ l.toList) :
    linesOf (lines ls) = ls ++ [""] := by
  rw [linesOf, toList_lines]
  induction ls with
  | nil => rfl
  | cons l ls ih =>
    rw [List.forall_mem_cons] at unbroken
    rw [List.flatMap_cons, List.append_assoc, List.singleton_append,
      List.splitOn_append_cons_self_of_not_mem unbroken.1, List.map_cons, ih unbroken.2,
      String.ofList_toList, List.cons_append]

theorem unbroken_moduleName (m : Model) : '\n' ∉ (moduleName m).toList :=
  Text.not_mem_snakeCase (by decide) (by decide +kernel) (by decide) m.name

theorem declaration_inj {name other : String} :
    declaration name = declaration other ↔ name = other := by
  refine ⟨fun same => ?_, congrArg declaration⟩
  have chars := congrArg String.toList same
  rw [declaration, declaration, String.toList_append, String.toList_append, String.toList_append,
    String.toList_append, List.append_cancel_right_eq, List.append_cancel_left_eq] at chars
  exact String.toList_inj.1 chars

/-- A line that does not begin like a declaration declares nothing. -/
theorem ne_declaration {line : String} (other : line.toList.take 5 ≠ ['p', 'u', 'b', ' ', 'm'])
    (name : String) : line ≠ declaration name := by
  rintro rfl
  refine other ?_
  rw [declaration, String.toList_append, String.toList_append]
  rfl

/-- The index holds one declaration for every module that it is made of. -/
theorem count_entries (names : List String) (name : String) :
    (names.flatMap fun other =>
      ["pub mod " ++ other ++ ";", "pub use " ++ other ++ "::*;", ""]).count (declaration name) =
        names.count name := by
  induction names with
  | nil => rfl
  | cons other rest ih =>
    have exports : "pub use " ++ other ++ "::*;" ≠ declaration name := by
      refine ne_declaration ?_ name
      rw [String.toList_append, String.toList_append]
      exact (by decide : ['p', 'u', 'b', ' ', 'u'] ≠ ['p', 'u', 'b', ' ', 'm'])
    have empty : "" ≠ declaration name := ne_declaration (by decide) name
    have own : (declaration other == declaration name) = (other == name) := by
      rw [Bool.eq_iff_iff, beq_iff_eq, beq_iff_eq, declaration_inj]
    rw [List.flatMap_cons, List.count_append, ih, List.count_cons, List.count_cons, List.count_cons,
      List.count_nil, beq_false_of_ne exports, beq_false_of_ne empty, List.count_cons, ← own]
    change 0 + 0 + 0 + _ + _ = _
    rw [Nat.zero_add, Nat.add_comm]
    rfl

/-- The index declares a module once for every model that has it. -/
theorem declarations_indexSource (r : Registry) (name : String) :
    declarations (indexSource r) name = (r.models.map moduleName).count name := by
  have unbroken : ∀ l ∈ ["// Generated by forge-codegen. Do not edit.", ""] ++
      (r.models.map moduleName).flatMap fun name =>
        ["pub mod " ++ name ++ ";", "pub use " ++ name ++ "::*;", ""], '\n' ∉ l.toList := by
    refine List.forall_mem_append.2 ⟨by decide, ?_⟩
    rw [List.forall_mem_flatMap, List.forall_mem_map]
    intro m _
    simp only [List.forall_mem_cons, String.toList_append, List.mem_append, not_or]
    exact ⟨⟨⟨by decide, unbroken_moduleName m⟩, by decide⟩,
      ⟨⟨by decide, unbroken_moduleName m⟩, by decide⟩, by decide, fun _ none => nomatch none⟩
  have header : "// Generated by forge-codegen. Do not edit." ≠ declaration name :=
    ne_declaration (by decide) name
  have empty : "" ≠ declaration name := ne_declaration (by decide) name
  rw [declarations, indexSource, linesOf_lines unbroken, List.count_append, List.count_append,
    count_entries, List.count_cons, List.count_cons, List.count_nil, beq_false_of_ne header,
    beq_false_of_ne empty]
  exact Nat.zero_add _

/-- The facade of a model is not the index. -/
theorem source_ne_indexSource (m : Model) (r : Registry) : (ofModel m).source ≠ indexSource r := by
  intro same
  have facade : (ofModel m).source.toList.take 30 = "// Generated by forge-codegen ".toList := by
    rw [toList_source, Block.frame, head, toList_lines, header, List.append_assoc, List.cons_append,
      List.flatMap_cons, String.toList_append, String.toList_append]
    rfl
  have index : (indexSource r).toList.take 30 = "// Generated by forge-codegen.".toList := by
    rw [indexSource, toList_lines, List.cons_append, List.flatMap_cons]
    rfl
  rw [same, index] at facade
  exact absurd facade (by decide)

end Facade

namespace Folder

/-! ### The files after a run -/

/-- Every model has a file with its facade, and the index declares the module of each model once. -/
structure KeepsFacades (folder : Folder) (r : Registry) : Prop where
  facades : ∀ m ∈ r.models, folder.read? [fileOf m] = some (Facade.ofModel m).source
  index : ∃ text, folder.read? [moduleFile "mod"] = some text ∧
    ∀ m ∈ r.models, Facade.declarations text (Facade.moduleName m) = 1

section

variable {m : Model} {written written' : List String} {folder after : Folder}

/-- Writing the facade of a model is writing its file, with the facade as it is when there was no
such file. -/
theorem write_fileOf (h : writeFacade (written, folder) m = .ok (written', after)) :
    ∃ text changed, folder.write ⟨false, [], fileOf m⟩ text = .ok (changed, after) ∧
      (folder.read? [fileOf m] = none → text = (Facade.ofModel m).source) := by
  rw [writeFacade_eq] at h
  obtain ⟨changed, wrote, -⟩ := noteWritten_eq_ok.1 h
  rw [writeKeepingBlocks_eq] at wrote
  split at wrote
  · exact ⟨_, changed, wrote, fun _ => rfl⟩
  · next there =>
    split at wrote
    · exact ⟨_, changed, wrote, fun missing => absurd (there.symm.trans missing) nofun⟩
    · cases wrote

/-- The facade is in a file that was not there before. -/
theorem held_of_writeFacade (missing : folder.read? [fileOf m] = none)
    (h : writeFacade (written, folder) m = .ok (written', after)) :
    after.read? [fileOf m] = some (Facade.ofModel m).source := by
  obtain ⟨text, changed, wrote, plain⟩ := write_fileOf h
  rw [← plain missing]
  exact (holds_of_write wrote).held

/-- The files of modules of other names are left alone. -/
theorem read?_of_writeFacade {name : String} (different : name ≠ Facade.moduleName m)
    (h : writeFacade (written, folder) m = .ok (written', after)) :
    after.read? [moduleFile name] = folder.read? [moduleFile name] := by
  obtain ⟨text, changed, wrote, -⟩ := write_fileOf h
  exact read?_of_write (fun same => different (moduleFile_injective same)) wrote

end

section

variable {models : List Model} {written written' : List String} {folder after : Folder}

theorem read?_of_foldlM {name : String}
    (different : ∀ m ∈ models, name ≠ Facade.moduleName m)
    (h : models.foldlM writeFacade (written, folder) = .ok (written', after)) :
    after.read? [moduleFile name] = folder.read? [moduleFile name] := by
  induction models generalizing written folder with
  | nil =>
    cases h
    rfl
  | cons first rest ih =>
    rw [List.foldlM_cons] at h
    obtain ⟨⟨written₁, folder₁⟩, wrote, later⟩ := Except.bind_eq_ok.1 h
    rw [List.forall_mem_cons] at different
    exact (ih different.2 later).trans (read?_of_writeFacade different.1 wrote)

/-- Models whose modules have distinct names leave each other's facades alone. -/
theorem facades_of_foldlM (distinct : (models.map Facade.moduleName).Nodup)
    (missing : ∀ m ∈ models, folder.read? [fileOf m] = none)
    (h : models.foldlM writeFacade (written, folder) = .ok (written', after)) :
    ∀ m ∈ models, after.read? [fileOf m] = some (Facade.ofModel m).source := by
  induction models generalizing written folder with
  | nil => exact fun _ none => nomatch none
  | cons first rest ih =>
    rw [List.foldlM_cons] at h
    obtain ⟨⟨written₁, folder₁⟩, wrote, later⟩ := Except.bind_eq_ok.1 h
    rw [List.forall_mem_cons] at missing
    have apart : ∀ m ∈ rest, Facade.moduleName first ≠ Facade.moduleName m :=
      fun m mem => moduleName_ne distinct mem
    have missingRest : ∀ m ∈ rest, folder₁.read? [fileOf m] = none := fun m mem =>
      (read?_of_writeFacade (apart m mem).symm wrote).trans (missing.2 m mem)
    refine List.forall_mem_cons.2 ⟨?_, ih (List.nodup_cons.1 distinct).2 missingRest later⟩
    exact (read?_of_foldlM apart later).trans (held_of_writeFacade missing.1 wrote)

/-- The index is the last file that is written. -/
theorem index_of_generate {r : Registry} (h : folder.generate r = .ok (written, after)) :
    ∃ written₁ folder₁, r.models.foldlM writeFacade ([], folder) = .ok (written₁, folder₁) ∧
      ∃ changed, folder₁.write ⟨false, [], moduleFile "mod"⟩ (Facade.indexSource r) =
        .ok (changed, after) := by
  obtain ⟨⟨written₁, folder₁⟩, facades, index⟩ := Except.bind_eq_ok.1 h
  obtain ⟨changed, wrote, -⟩ := noteWritten_eq_ok.1 index
  rw [pathOf_index] at wrote
  exact ⟨written₁, folder₁, facades, changed, wrote⟩

end

/-! ### Models that keep their facades -/

section

variable {r : Registry} {written : List String} {folder after : Folder}

/-- Of two models with one module the index says so. -/
theorem KeepsFacades.distinct (keeps : after.KeepsFacades r)
    (h : folder.generate r = .ok (written, after)) : (r.models.map Facade.moduleName).Nodup := by
  obtain ⟨written₁, folder₁, -, changed, wrote⟩ := index_of_generate h
  obtain ⟨text, there, once⟩ := keeps.index
  cases (holds_of_write wrote).held.symm.trans there
  refine List.nodup_iff_count_le_one.2 fun name => ?_
  by_cases mem : name ∈ r.models.map Facade.moduleName
  · obtain ⟨m, there, rfl⟩ := List.mem_map.1 mem
    exact (Facade.declarations_indexSource r _ ▸ once m there).le
  · rw [List.count_eq_zero_of_not_mem mem]
    exact Nat.zero_le 1

/-- The index takes the place of a module of its name. -/
theorem KeepsFacades.apart (keeps : after.KeepsFacades r)
    (h : folder.generate r = .ok (written, after)) :
    ∀ m ∈ r.models, Facade.moduleName m ≠ "mod" := by
  intro m mem same
  obtain ⟨written₁, folder₁, -, changed, wrote⟩ := index_of_generate h
  have facade := keeps.facades m mem
  rw [fileOf, same, (holds_of_write wrote).held] at facade
  exact Facade.source_ne_indexSource m r (Option.some.inj facade).symm

/-- **Every model keeps its facade, and has its module declared once, exactly when the modules have
distinct names other than that of the index.** -/
theorem keepsFacades_iff (new : folder.files = [])
    (h : folder.generate r = .ok (written, after)) : after.KeepsFacades r ↔
      (r.models.map Facade.moduleName).Nodup ∧ ∀ m ∈ r.models, Facade.moduleName m ≠ "mod" := by
  refine ⟨fun keeps => ⟨keeps.distinct h, keeps.apart h⟩, fun ⟨distinct, apart⟩ => ?_⟩
  obtain ⟨written₁, folder₁, facades, changed, wrote⟩ := index_of_generate h
  have missing : ∀ m ∈ r.models, folder.read? [fileOf m] = none := by
    intro m _
    rw [read?, new, List.lookup_nil]
  constructor
  · intro m mem
    have others : fileOf m ≠ moduleFile "mod" := fun same => apart m mem (moduleFile_injective same)
    exact (read?_of_write others wrote).trans (facades_of_foldlM distinct missing facades m mem)
  · refine ⟨_, (holds_of_write wrote).held, fun m mem => ?_⟩
    rw [Facade.declarations_indexSource]
    exact List.count_eq_one_of_mem distinct (List.mem_map_of_mem mem)

end

theorem keepsFacades_noted :
    ∃ r written after, noted.compile = .ok r ∧ ({} : Folder).generate r = .ok (written, after) ∧
      after.KeepsFacades r := by
  have compiles : noted.compile.toOption.isSome = true := by decide +kernel
  obtain ⟨r, compiled⟩ := Option.isSome_iff_exists.1 compiles
  have facts : ∀ r ∈ noted.compile.toOption, (r.models.map Facade.moduleName).Nodup ∧
      (∀ m ∈ r.models, Facade.moduleName m ≠ "mod") ∧ (∀ m ∈ r.models, m.Unmarked) ∧
      (∀ m ∈ r.models, ({} : Folder).Ready m) := by
    decide +kernel
  obtain ⟨distinct, apart, unmarked, ready⟩ := facts r compiled
  obtain ⟨written, after, generated⟩ := generate_ok distinct unmarked ready (by decide +kernel)
  exact ⟨r, written, after, Except.eq_ok_of_toOption compiled, generated,
    (keepsFacades_iff rfl generated).2 ⟨distinct, apart⟩⟩

/-- Posts, and the modifications that are made to them. -/
def modified : Catalogue where
  schemas := [{ name := "Post" }, { name := "Mod" }]

theorem not_keepsFacades_modified :
    ∃ r written after, modified.compile = .ok r ∧ ({} : Folder).generate r = .ok (written, after) ∧
      ¬after.KeepsFacades r := by
  have compiles : modified.compile.toOption.isSome = true := by decide +kernel
  obtain ⟨r, compiled⟩ := Option.isSome_iff_exists.1 compiles
  have facts : ∀ r ∈ modified.compile.toOption, (r.models.map Facade.moduleName).Nodup ∧
      ¬(∀ m ∈ r.models, Facade.moduleName m ≠ "mod") ∧ (∀ m ∈ r.models, m.Unmarked) ∧
      (∀ m ∈ r.models, ({} : Folder).Ready m) := by
    decide +kernel
  obtain ⟨distinct, indexed, unmarked, ready⟩ := facts r compiled
  obtain ⟨written, after, generated⟩ := generate_ok distinct unmarked ready (by decide +kernel)
  exact ⟨r, written, after, Except.eq_ok_of_toOption compiled, generated,
    fun keeps => indexed (keeps.apart generated)⟩

end Folder

end EntityStore
