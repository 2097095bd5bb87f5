import MpegRecorder.Storage.Basic

/-!
What became different between two states of storage: the directories and files of a tree that were
made, and the files whose content is not what it was.
-/

namespace MpegRecorder.Storage

def absolute (names : List String) : String :=
  "/" ++ "/".intercalate names

def contentAt? (storage : Storage) (names : List String) : Option Bytes :=
  match storage.tree.entry? names with
  | some (.file id) => some (storage.content id)
  | _ => none

/-- The directories that only the later tree has, those above first. -/
def newDirectories (before after : Storage) : List String :=
  (after.tree.entries.reverse.filter fun entry =>
    entry.2 = .directory && (before.tree.entry? entry.1.2).isNone).map fun entry =>
      absolute entry.1.2

/-- The files that only the later state has, or has with another content. -/
def changedFiles (before after : Storage) : List (String × Bytes) :=
  (after.listing []).filterMap fun (path, id) =>
    let names := Path.stretches path
    if before.contentAt? names = some (after.content id) then none
    else some (absolute names, after.content id)

end MpegRecorder.Storage
