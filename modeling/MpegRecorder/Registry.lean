import MpegRecorder.Storage.Path
import MpegRecorder.Text.Quoted

/-!
The recordings in progress by the path that each writes to. A path may be spelled in several ways;
an entry keeps the spelling that it was first made with.
-/

namespace MpegRecorder

open Storage

structure Registry where
  /-- Path and number of each recording, at most one for a path, oldest first. -/
  entries : List (String × Nat)
deriving Repr, DecidableEq

namespace Registry

def empty : Registry := ⟨[]⟩

def get? (registry : Registry) (path : String) : Option Nat :=
  (registry.entries.find? fun entry => Path.same entry.1 path).map Prod.snd

/-- Enters a recording in place of the one at the same path. -/
def register (registry : Registry) (path : String) (recording : Nat) : Registry :=
  if (registry.get? path).isSome then
    ⟨registry.entries.map fun entry =>
      if Path.same entry.1 path then (entry.1, recording) else entry⟩
  else ⟨registry.entries ++ [(path, recording)]⟩

def erase (registry : Registry) (path : String) : Registry :=
  ⟨registry.entries.filter fun entry => !Path.same entry.1 path⟩

def owns (registry : Registry) (path : String) (recording : Nat) : Bool :=
  registry.get? path == some recording

def unregister (registry : Registry) (path : String) (recording : Nat) : Registry :=
  if registry.owns path recording then registry.erase path else registry

/-- Moves the entry of one path, whosever it is, to another. -/
def rename (registry : Registry) (source target : String) : Registry :=
  match registry.get? source with
  | none => registry
  | some recording => (registry.erase source).register target recording

def paths (registry : Registry) : List String :=
  registry.entries.map Prod.fst

def description (registry : Registry) : String :=
  "SessionRegistry \x7b paths: ["
    ++ ", ".intercalate (registry.paths.map Text.Quoted.encode) ++ "] \x7d"

end Registry

end MpegRecorder
