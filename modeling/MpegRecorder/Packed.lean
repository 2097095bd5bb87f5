import MpegRecorder.Bytes

/-!
Byte strings packed into memory, for the buffers that grow at their end piece by piece. Everything
about them is said through the view `toList`.
-/

namespace MpegRecorder

structure Packed where
  data : ByteArray

namespace Packed

def toList (packed : Packed) : Bytes :=
  packed.data.data.toList

def empty : Packed := ⟨ByteArray.empty⟩

def size (packed : Packed) : Nat :=
  packed.data.size

def isEmpty (packed : Packed) : Bool :=
  packed.size == 0

def append (packed : Packed) (bytes : Bytes) : Packed :=
  ⟨bytes.foldl ByteArray.push packed.data⟩

def ofList (bytes : Bytes) : Packed :=
  empty.append bytes

def take (packed : Packed) (count : Nat) : Packed :=
  ⟨packed.data.extract 0 count⟩

def drop (packed : Packed) (count : Nat) : Packed :=
  ⟨packed.data.extract count packed.data.size⟩

def head? (packed : Packed) : Option UInt8 :=
  packed.data[0]?

@[simp] theorem toList_empty : empty.toList = [] := rfl

@[simp] theorem size_empty : empty.size = 0 := rfl

@[simp] theorem length_toList (packed : Packed) : packed.toList.length = packed.size := by
  simp [toList, size]

theorem data_foldl_push (bytes : Bytes) (start : ByteArray) :
    (bytes.foldl ByteArray.push start).data.toList = start.data.toList ++ bytes := by
  induction bytes generalizing start with
  | nil => simp
  | cons byte rest ih => simp [ih]

@[simp] theorem toList_append (packed : Packed) (bytes : Bytes) :
    (packed.append bytes).toList = packed.toList ++ bytes :=
  data_foldl_push bytes packed.data

@[simp] theorem toList_ofList (bytes : Bytes) : (ofList bytes).toList = bytes := by
  simp [ofList]

@[simp] theorem toList_take (packed : Packed) (count : Nat) :
    (packed.take count).toList = packed.toList.take count := by
  simp [take, toList, ByteArray.data_extract]

@[simp] theorem toList_drop (packed : Packed) (count : Nat) :
    (packed.drop count).toList = packed.toList.drop count := by
  simp only [drop, toList, ByteArray.data_extract, Array.toList_extract, List.extract_eq_take_drop]
  exact List.take_of_length_le (by simp)

@[simp] theorem size_append (packed : Packed) (bytes : Bytes) :
    (packed.append bytes).size = packed.size + bytes.length := by
  rw [← length_toList, toList_append, List.length_append, length_toList]

@[simp] theorem size_drop (packed : Packed) (count : Nat) :
    (packed.drop count).size = packed.size - count := by
  rw [← length_toList, toList_drop, List.length_drop, length_toList]

@[simp] theorem size_take (packed : Packed) (count : Nat) :
    (packed.take count).size = min count packed.size := by
  rw [← length_toList, toList_take, List.length_take, length_toList]

@[simp] theorem head?_toList (packed : Packed) : packed.toList.head? = packed.head? := by
  rw [List.head?_eq_getElem?, toList, Array.getElem?_toList, head?]
  by_cases some : 0 < packed.data.size
  · have : 0 < packed.data.data.size := some
    rw [getElem?_pos packed.data 0 some, getElem?_pos packed.data.data 0 this]
    rfl
  · have : ¬ 0 < packed.data.data.size := some
    rw [getElem?_neg packed.data 0 some, getElem?_neg packed.data.data 0 this]

end Packed

end MpegRecorder
