import MpegRecorder.Storage.Basic

/-!
Openers give a recording its next destination by name. One opens files of the tree, relative to a
base directory and for authorized tokens only if so asked; the other hands out files in memory that
behave as planned.
-/

namespace MpegRecorder.Storage

structure FileOpener where
  base : Option String
  /-- The tokens that may open a file; without a list every token may. -/
  tokens : Option (List UInt32)
deriving Repr, DecidableEq

structure MemoryOpener where
  /-- What comes of each attempt, counted from zero: a file of some behaviour, or a failure. -/
  plan : Nat → Option Behaviour
  attempts : Nat
  /-- Name, token and file of each open that succeeded, oldest first. -/
  opened : List (String × UInt32 × Nat)

inductive Opener where
  | files (opener : FileOpener)
  | memory (opener : MemoryOpener)

namespace FileOpener

def authorize (opener : FileOpener) (token : UInt32) : FileOpener :=
  { opener with tokens := opener.tokens.map (token :: ·) }

def isAuthorized (opener : FileOpener) (token : UInt32) : Bool :=
  match opener.tokens with
  | none => true
  | some tokens => tokens.contains token

def resolve (opener : FileOpener) (name : String) : String :=
  match opener.base with
  | none => name
  | some base => Path.join base name

def openFile (opener : FileOpener) (storage : Storage) (name : String) (token : UInt32) :
    Except IoError Destination × Storage :=
  if opener.isAuthorized token then storage.create (opener.resolve name)
  else (.error (.unauthorized token name), storage)

end FileOpener

namespace Opener

def healthy : Opener :=
  .memory ⟨fun _ => some .healthy, 0, []⟩

def openFile (opener : Opener) (storage : Storage) (name : String) (token : UInt32) :
    Except IoError Destination × Opener × Storage :=
  match opener with
  | files opener =>
    let result := opener.openFile storage name token
    (result.1, .files opener, result.2)
  | memory opener =>
    let attempted := { opener with attempts := opener.attempts + 1 }
    match opener.plan opener.attempts with
    | none => (.error (.staged s!"refusing to open {name}"), .memory attempted, storage)
    | some behaviour =>
      let added := storage.addFile name behaviour
      (.ok added.1,
        .memory { attempted with opened := opener.opened ++ [(name, token, added.1.file)] },
        added.2)

def authorize (opener : Opener) (token : UInt32) : Opener :=
  match opener with
  | files opener => .files (opener.authorize token)
  | memory opener => .memory opener

end Opener

end MpegRecorder.Storage
