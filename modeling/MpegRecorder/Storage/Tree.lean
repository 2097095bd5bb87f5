import MpegRecorder.Storage.Error
import MpegRecorder.Storage.FileName

/-!
A tree of directories. Its files are numbers that name their content elsewhere, so that a file that
is open stays what it is, whatever happens to its name.
-/

namespace MpegRecorder.Storage

inductive Entry where
  | directory
  | file (id : Nat)
deriving Repr, DecidableEq

structure Tree where
  /-- The entries below the root by their depth and the names on the way to them, newest first. -/
  entries : List ((Nat × List String) × Entry)
  workingDirectory : List String
deriving Repr, DecidableEq

namespace Tree

/-- Whether text can name anything at all: a zero character would end it. -/
def isNameable (text : String) : Bool :=
  !text.toList.contains (Char.ofNat 0)

def nameLimit : Nat := 255

/-- Paths are shorter than this many bytes. -/
def pathLimit : Nat := 4096

def fault? (path : String) : Option IoError :=
  if !isNameable path then some .unnameable
  else if pathLimit ≤ path.utf8ByteSize then some .nameTooLong
  else none

def entry? (tree : Tree) (path : List String) : Option Entry :=
  if path = [] then some .directory else tree.entries.lookup (path.length, path)

def add (tree : Tree) (path : List String) (entry : Entry) : Tree :=
  { tree with entries := ((path.length, path), entry) :: tree.entries }

def enter (tree : Tree) (directory : List String) (segment : String) :
    Except IoError (List String) :=
  if segment = "." then .ok directory
  else if segment = ".." then .ok directory.dropLast
  else if nameLimit < segment.utf8ByteSize then .error .nameTooLong
  else
    match tree.entry? (directory ++ [segment]) with
    | none => .error .notFound
    | some (.file _) => .error .notDirectory
    | some .directory => .ok (directory ++ [segment])

def start (tree : Tree) (path : String) : List String :=
  if Path.isAbsolute path then [] else tree.workingDirectory

def walk (tree : Tree) (directory : List String) (segments : List String) :
    Except IoError (List String) :=
  segments.foldlM (tree.enter ·) directory

/-- Where the last segment of a path leads, and what is there. -/
structure Place where
  path : List String
  entry : Option Entry

def locate (tree : Tree) (directory : List String) (segments : List String) :
    Except IoError Place :=
  match segments.getLast? with
  | none => .ok ⟨directory, some .directory⟩
  | some last => do
    let parent ← tree.walk directory segments.dropLast
    if last = "." ∨ last = ".." then
      return ⟨← tree.enter parent last, some .directory⟩
    if nameLimit < last.utf8ByteSize then
      throw .nameTooLong
    return ⟨parent ++ [last], tree.entry? (parent ++ [last])⟩

def segment : Component → Option String
  | .root => none
  | .here => some "."
  | .up => some ".."
  | .name text => some text

/-- Makes directories below one that was itself just made. Whatever is in the way is there already. -/
def makeBelow (tree : Tree) (directory : List String) (segments : List String) :
    Except IoError Unit × Tree :=
  match segments with
  | [] => (.ok (), tree)
  | segment :: rest =>
    match tree.locate directory [segment] with
    | .error e => (.error e, tree)
    | .ok ⟨path, some .directory⟩ => makeBelow tree path rest
    | .ok ⟨_, some (.file _)⟩ => (.error .alreadyExists, tree)
    | .ok ⟨path, none⟩ => makeBelow (tree.add path .directory) path rest

/--
Makes the directory that segments lead to, and first those above it that are missing. A file on the
way to the first that is missing is no directory to pass through; a file where a directory is to be
made is there already.
-/
def makeDirectories (tree : Tree) (directory : List String) (segments : List String) :
    Except IoError Unit × Tree :=
  match segments with
  | [] => (.ok (), tree)
  | segment :: rest =>
    match tree.locate directory [segment] with
    | .error e => (.error e, tree)
    | .ok ⟨path, some .directory⟩ => makeDirectories tree path rest
    | .ok ⟨_, some (.file _)⟩ =>
      (.error (if rest = [] then .alreadyExists else .notDirectory), tree)
    | .ok ⟨path, none⟩ => makeBelow (tree.add path .directory) path rest

inductive Opening where
  | existing (id : Nat)
  | fresh (path : List String)

/--
Looks up a file to write to. A path that ends in a separator names a directory, which cannot be
written to, whatever is there.
-/
def openForWriting (tree : Tree) (path : String) : Except IoError Opening :=
  match fault? path with
  | some e => .error e
  | none =>
    if path = "" then .error .notFound
    else if path.endsWith "/" then
      match tree.walk (tree.start path) (Path.segments path).dropLast with
      | .error e => .error e
      | .ok _ => .error .isDirectory
    else
      match tree.locate (tree.start path) (Path.segments path) with
      | .error e => .error e
      | .ok place =>
        match place.entry with
        | some .directory => .error .isDirectory
        | some (.file id) => .ok (.existing id)
        | none => .ok (.fresh place.path)

def file? (tree : Tree) (path : String) : Option Nat :=
  match tree.openForWriting path with
  | .ok (.existing id) => some id
  | _ => none

def makeParents (tree : Tree) (path : String) : Except IoError Unit × Tree :=
  match fault? (Path.parentText path) with
  | some e => (.error e, tree)
  | none =>
    tree.makeDirectories (tree.start path)
      ((Path.components path).dropLast.filterMap segment)

end Tree

end MpegRecorder.Storage
