import EntityStore.Facade.Basic
import EntityStore.Facade.Block

/-!
# Generated files

Facades are written into a folder: one file for each model, and one that exports them. A file whose
content would not change is not written.
-/

namespace EntityStore

/-- A folder: the contents of its files and the folders inside it, by their paths. -/
structure Folder where
  files : List (List String × String) := []
  folders : List (List String) := []
deriving DecidableEq, Repr

/-- A path that is followed from a folder: the parts that lead to the file, where `..` leads back,
and the name of the file. A path with a root is not followed from the folder. -/
structure FilePath where
  rooted : Bool
  way : List String
  name : String
deriving DecidableEq, Repr

/-- Why files were not written. -/
inductive FacadeError where
  | unusable
  | marker (file : String) (block : UnmatchedBlock)
deriving DecidableEq, Repr

/-- The wording of an error with a file; other errors have none. -/
def FacadeError.message : FacadeError → String
  | .unusable => ""
  | .marker file block =>
    "Invalid marker in " ++ file ++ ": block '" ++ block.opened ++ "' is closed by '" ++
      block.closed ++ "'"

namespace Folder

/-- The number of bytes that the written path of a file may have. -/
def longestPath : Nat := 4080

/-- A written path. On the way to the file, empty parts and single points lead nowhere. -/
def pathOf (path : String) : FilePath :=
  let parts := path.splitOn "/"
  ⟨path.startsWith "/", parts.dropLast.filter fun part => part != "" && part != ".",
    parts.getLastD ""⟩

/-- A name that a file can have. -/
def isFileName (part : String) : Bool :=
  ["", ".", ".."].all (· != part) && Naming.byteLength part.toList ≤ 255 &&
    !part.toList.contains (Char.ofNat 0)

/-- The content of a file. -/
def read? (folder : Folder) (path : List String) : Option String :=
  folder.files.lookup path

/-- The path leads to a folder. -/
def isFolder (folder : Folder) (path : List String) : Bool :=
  path.isEmpty || folder.folders.contains path

/-- The place that a way leads to, if every folder on it is there and it stays inside. -/
def follow? (folder : Folder) (here : List String) : List String → Option (List String)
  | [] => some here
  | part :: rest =>
    if part = ".." then if here.isEmpty then none else folder.follow? here.dropLast rest
    else if folder.isFolder (here ++ [part]) then folder.follow? (here ++ [part]) rest
    else none

/-- Makes the folders of a way that are not there; answers the place that it leads to, nothing when
it leaves the folder. -/
def makeWay (folder : Folder) (here : List String) :
    List String → Except FacadeError (Option (List String) × Folder)
  | [] => .ok (some here, folder)
  | part :: rest =>
    let next := here ++ [part]
    if part = ".." then
      if here.isEmpty then .ok (none, folder) else folder.makeWay here.dropLast rest
    else if folder.isFolder next then folder.makeWay next rest
    else if (folder.read? next).isSome || !isFileName part then .error .unusable
    else makeWay { folder with folders := folder.folders ++ [next] } next rest

/-- Replaces the content of a file, or adds the file. -/
def put (folder : Folder) (path : List String) (content : String) : Folder :=
  { folder with
    files :=
      if (folder.read? path).isSome then
        folder.files.map fun file => if file.1 = path then (path, content) else file
      else folder.files ++ [(path, content)] }

/-- Writes a file unless it holds the content already; answers whether it was written. What lies
outside the folder is not known and takes every file. -/
def write (folder : Folder) (path : FilePath) (content : String) :
    Except FacadeError (Bool × Folder) := do
  let length := (path.way ++ [path.name]).foldl (fun n part => n + 1 + part.utf8ByteSize) 0
  if longestPath < length || !isFileName path.name then .error .unusable
  let (place, folder) ← if path.rooted then .ok (none, folder) else folder.makeWay [] path.way
  match place with
  | none => return (true, folder)
  | some here =>
    let file := here ++ [path.name]
    if folder.isFolder file then .error .unusable
    else if folder.read? file = some content then return (false, folder)
    else return (true, folder.put file content)

/-- Writes a file with the blocks that it holds carried over into the new content. -/
def writeKeepingBlocks (folder : Folder) (path : FilePath) (content : String) :
    Except FacadeError (Bool × Folder) :=
  let present := if path.rooted then none else folder.follow? [] path.way
  match present.bind fun here => folder.read? (here ++ [path.name]) with
  | none => folder.write path content
  | some present =>
    match Block.merge present.toList content.toList with
    | .ok merged => folder.write path (String.ofList merged)
    | .error block => .error (.marker path.name block)

/-- The file of a module. -/
def moduleFile (name : String) : String := name ++ ".rs"

/-- Notes a file that was written. -/
def noteWritten (written : List String) (file : String) (answer : Bool × Folder) :
    List String × Folder :=
  (if answer.1 then written ++ [file] else written, answer.2)

/-- Writes the facade of a model; answers the files written so far too. -/
def writeFacade (state : List String × Folder) (m : Model) :
    Except FacadeError (List String × Folder) :=
  let file := moduleFile (Facade.moduleName m)
  let written := state.2.writeKeepingBlocks (pathOf file) (Facade.ofModel m).source
  written.map (noteWritten state.1 file)

/-- Writes the facades of all models and the file that exports them; answers the files whose content
changed, in order. -/
def generate (folder : Folder) (r : Registry) : Except FacadeError (List String × Folder) := do
  let state ← r.models.foldlM writeFacade ([], folder)
  let file := moduleFile "mod"
  (state.2.write (pathOf file) (Facade.indexSource r)).map (noteWritten state.1 file)

/-- What a listing of the folder shows: the contents of its files, and nothing of its folders. -/
def listing (folder : Folder) : List (String × String) :=
  let own {α : Type} (entries : List (List String × α)) : List (String × α) :=
    entries.filterMap fun entry =>
      match entry.1 with
      | [name] => some (name, entry.2)
      | _ => none
  own folder.files ++ own (folder.folders.map fun path => (path, ""))

/-- A folder of the given files. -/
def ofFiles (files : List (String × String)) : Folder :=
  files.foldl (fun folder file =>
    match folder.write (pathOf file.1) file.2 with
    | .ok (_, folder) => folder
    | .error _ => folder) {}

end Folder

end EntityStore
