import MpegRecorder.Packed
import MpegRecorder.Storage.Error

/-!
Files: their content, and how they answer the calls made to them. A file of a healthy disk takes
every byte; others are described by what each numbered call does.
-/

namespace MpegRecorder.Storage

/-- The answers of a file to its calls, which are numbered from zero. -/
structure Behaviour where
  /-- How many bytes a write call takes at most; without a number it takes all. -/
  write : (call : Nat) → Except IoError (Option Nat)
  rewind : (call : Nat) → Except IoError Unit
  close : Except IoError Unit

def Behaviour.healthy : Behaviour :=
  ⟨fun _ => .ok none, fun _ => .ok (), .ok ()⟩

structure File where
  content : Packed
  behaviour : Behaviour
  writeCalls : Nat
  rewindCalls : Nat
  rewinds : Nat
  closed : Bool

namespace File

def new (behaviour : Behaviour) : File :=
  ⟨.empty, behaviour, 0, 0, 0, false⟩

/-- Puts bytes at a position; a gap before it fills with zeros. -/
def splice (content : Packed) (position : Nat) (data : Bytes) : Packed :=
  if data = [] then content
  else
    (((content.take position).append (List.replicate (position - content.size) 0)).append data).append
      (content.drop (position + data.length)).toList

def write (file : File) (position : Nat) (data : Bytes) : Except IoError Nat × File :=
  let counted := { file with writeCalls := file.writeCalls + 1 }
  match file.behaviour.write file.writeCalls with
  | .error e => (.error e, counted)
  | .ok limit =>
    let taken := data.take (limit.getD data.length)
    (.ok taken.length, { counted with content := splice file.content position taken })

def rewind (file : File) : Except IoError Unit × File :=
  let counted := { file with rewindCalls := file.rewindCalls + 1 }
  match file.behaviour.rewind file.rewindCalls with
  | .error e => (.error e, counted)
  | .ok _ => (.ok (), { counted with rewinds := file.rewinds + 1 })

def close (file : File) : Except IoError Unit × File :=
  match file.behaviour.close with
  | .error e => (.error e, file)
  | .ok _ => (.ok (), { file with closed := true })

theorem toList_splice {content : Packed} {position : Nat} {data : Bytes} (filled : data ≠ []) :
    (splice content position data).toList =
      content.toList.take position ++ List.replicate (position - content.size) 0 ++ data
        ++ content.toList.drop (position + data.length) := by
  simp [splice, filled]

@[simp] theorem toList_splice_end (content : Packed) (data : Bytes) :
    (splice content content.size data).toList = content.toList ++ data := by
  by_cases empty : data = []
  · simp [splice, empty]
  · simp [toList_splice empty, List.take_of_length_le, List.drop_eq_nil_of_le]

end File

end MpegRecorder.Storage
