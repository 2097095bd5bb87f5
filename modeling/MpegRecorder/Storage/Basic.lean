import MpegRecorder.Storage.File
import MpegRecorder.Storage.Tree

/-!
Storage: all files that were ever opened, and the tree that names some of them. A destination is an
open file with a position of its own; it goes on working when the name of its file is taken over.
-/

namespace MpegRecorder

structure Storage where
  files : List Storage.File
  tree : Storage.Tree

namespace Storage

structure Destination where
  file : Nat
  position : Nat
  path : String
deriving Repr, DecidableEq

/-- Storage without files, whose tree holds the way to its working directory. -/
def empty (workingDirectory : List String) : Storage :=
  ⟨[], (List.range workingDirectory.length).foldl
    (fun tree depth => tree.add (workingDirectory.take (depth + 1)) .directory)
    ⟨[], workingDirectory⟩⟩

def modify (storage : Storage) (id : Nat) (change : File → File) : Storage :=
  { storage with files := storage.files.modify id change }

def content (storage : Storage) (id : Nat) : Bytes :=
  match storage.files[id]? with
  | some file => file.content.toList
  | none => []

def addFile (storage : Storage) (path : String) (behaviour : Behaviour) : Destination × Storage :=
  (⟨storage.files.length, 0, path⟩,
    { storage with files := storage.files ++ [File.new behaviour] })

def truncate (storage : Storage) (path : String) : Except IoError Destination × Storage :=
  match storage.tree.openForWriting path with
  | .error e => (.error e, storage)
  | .ok (.existing id) =>
    (.ok ⟨id, 0, path⟩, storage.modify id fun file => { file with content := .empty })
  | .ok (.fresh place) =>
    let (destination, storage) := storage.addFile path .healthy
    (.ok destination,
      { storage with tree := storage.tree.add place (.file destination.file) })

/--
Creates the directories above a file and then the file itself. What was made before a failure stays.
-/
def create (storage : Storage) (path : String) : Except IoError Destination × Storage :=
  match storage.tree.makeParents path with
  | (.error e, tree) => (.error e, { storage with tree })
  | (.ok _, tree) => { storage with tree }.truncate path

def write (storage : Storage) (destination : Destination) (data : Bytes) :
    Except IoError Nat × Destination × Storage :=
  match storage.files[destination.file]? with
  | none => (.error .notFound, destination, storage)
  | some file =>
    match file.write destination.position data with
    | (.error e, file) => (.error e, destination, storage.modify destination.file fun _ => file)
    | (.ok taken, file) =>
      (.ok taken, { destination with position := destination.position + taken },
        storage.modify destination.file fun _ => file)

def rewind (storage : Storage) (destination : Destination) :
    Except IoError Unit × Destination × Storage :=
  match storage.files[destination.file]? with
  | none => (.error .notFound, destination, storage)
  | some file =>
    match file.rewind with
    | (.error e, file) => (.error e, destination, storage.modify destination.file fun _ => file)
    | (.ok _, file) =>
      (.ok (), { destination with position := 0 }, storage.modify destination.file fun _ => file)

def close (storage : Storage) (destination : Destination) : Except IoError Unit × Storage :=
  match storage.files[destination.file]? with
  | none => (.error .notFound, storage)
  | some file =>
    let result := file.close
    (result.1, storage.modify destination.file fun _ => result.2)

def listing (storage : Storage) (directory : List String) : List (String × Nat) :=
  storage.tree.entries.filterMap fun ((_, path), entry) =>
    match entry with
    | .directory => none
    | .file id =>
      if directory.isPrefixOf path then some ("/".intercalate (path.drop directory.length), id)
      else none

end Storage

end MpegRecorder
