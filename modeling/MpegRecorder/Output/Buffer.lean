import MpegRecorder.Bytes

/-!
Bytes that wait to be written. The capacity is a soft bound: a piece that does not fit calls for a
flush, and one that is larger than the capacity raises it.
-/

namespace MpegRecorder.Output

structure Buffer where
  content : Bytes
  capacity : Nat
deriving Repr, DecidableEq

namespace Buffer

def new (capacity : Nat) : Buffer := ⟨[], capacity⟩

def remaining (buffer : Buffer) : Nat :=
  buffer.capacity - buffer.content.length

def makeRoom (buffer : Buffer) (count : Nat) : Buffer :=
  if buffer.remaining < count then { buffer with capacity := buffer.content.length + count }
  else buffer

def extend (buffer : Buffer) (data : Bytes) : Buffer :=
  { buffer with content := buffer.content ++ data }

def splitTo (buffer : Buffer) (count : Nat) : Bytes × Buffer :=
  (buffer.content.take count, { buffer with content := buffer.content.drop count })

def clear (buffer : Buffer) : Buffer :=
  { buffer with content := [] }

@[simp] theorem content_makeRoom (buffer : Buffer) (count : Nat) :
    (buffer.makeRoom count).content = buffer.content := by
  unfold makeRoom
  split <;> rfl

end Buffer

end MpegRecorder.Output
