import Mathlib.Data.List.Basic
import MpegRecorder.Storage.Opener

/-!
Files that only ever grow at their end. A destination that stands at the end of a file which accepts
all bytes is ready; a write call to it makes the file longer by the bytes that it took, keeps the
destination ready and leaves every other file as it is.
-/

namespace MpegRecorder.Storage

def Behaviour.Accepts (behaviour : Behaviour) : Prop :=
  ∀ call, ∃ limit, behaviour.write call = .ok limit ∧ limit ≠ some 0

theorem Behaviour.healthy_accepts : Behaviour.healthy.Accepts :=
  fun _ => ⟨none, rfl, nofun⟩

structure File.Took (before after : File) (data : Bytes) (taken : Nat) : Prop where
  positive : 0 < taken
  bounded : taken ≤ data.length
  behaviour : after.behaviour = before.behaviour
  content : after.content.toList = before.content.toList ++ data.take taken

theorem File.Took.size {before after : File} {data : Bytes} {taken : Nat}
    (took : before.Took after data taken) : after.content.size = before.content.size + taken := by
  have lengths := congrArg List.length took.content
  have bounded := took.bounded
  simp only [List.length_append, List.length_take, Packed.length_toList] at lengths
  omega

theorem File.write_end {file : File} (accepts : file.behaviour.Accepts) {data : Bytes}
    (filled : data ≠ []) :
    ∃ taken after, file.write file.content.size data = (.ok taken, after)
      ∧ file.Took after data taken := by
  obtain ⟨limit, answer, positive⟩ := accepts file.writeCalls
  have length_pos := List.length_pos_iff.mpr filled
  have limit_pos : 0 < limit.getD data.length := by
    cases limit with
    | none => exact length_pos
    | some limit => exact Nat.pos_of_ne_zero fun zero => positive (congrArg _ zero)
  refine ⟨(data.take (limit.getD data.length)).length, { file with
    writeCalls := file.writeCalls + 1
    content := splice file.content file.content.size (data.take (limit.getD data.length)) },
    by simp only [write, answer], ?_, ?_, rfl, ?_⟩
  · rw [List.length_take]
    omega
  · exact List.length_take_le' ..
  · rw [toList_splice_end, List.length_take, ← List.take_eq_take_min]

/-- The destination stands at the end of a file that accepts all bytes. -/
def Ready (storage : Storage) (destination : Destination) : Prop :=
  ∃ file, storage.files[destination.file]? = some file ∧ file.behaviour.Accepts
    ∧ destination.position = file.content.size

/-- One file grew at its end, and all others are what they were. -/
structure Grown (before after : Storage) (id : Nat) (data : Bytes) : Prop where
  content : after.content id = before.content id ++ data
  others : ∀ other, other ≠ id → after.files[other]? = before.files[other]?
  count : after.files.length = before.files.length

theorem Grown.refl (storage : Storage) (id : Nat) : Grown storage storage id [] :=
  ⟨(List.append_nil _).symm, fun _ _ => rfl, rfl⟩

theorem Grown.trans {first second third : Storage} {id : Nat} {data more : Bytes}
    (start : Grown first second id data) (rest : Grown second third id more) :
    Grown first third id (data ++ more) where
  content := by rw [rest.content, start.content, List.append_assoc]
  others other different := (rest.others other different).trans (start.others other different)
  count := rest.count.trans start.count

theorem content_of_getElem? {storage : Storage} {id : Nat} {file : File}
    (found : storage.files[id]? = some file) : storage.content id = file.content.toList := by
  rw [content, found]

theorem content_congr {before after : Storage} {id : Nat}
    (same : after.files[id]? = before.files[id]?) : after.content id = before.content id := by
  rw [content, same, content]

theorem getElem?_modify_same {storage : Storage} {id : Nat} {file : File}
    (found : storage.files[id]? = some file) (change : File → File) :
    (storage.modify id change).files[id]? = some (change file) := by
  simp [modify, found]

theorem getElem?_modify_other (storage : Storage) {id other : Nat} (different : other ≠ id)
    (change : File → File) : (storage.modify id change).files[other]? = storage.files[other]? :=
  List.getElem?_modify_ne change storage.files different.symm

theorem length_modify (storage : Storage) (id : Nat) (change : File → File) :
    (storage.modify id change).files.length = storage.files.length :=
  List.length_modify ..

def behaviour? (storage : Storage) (id : Nat) : Option Behaviour :=
  storage.files[id]?.map File.behaviour

theorem behaviour?_modify (storage : Storage) (changed id : Nat) {change : File → File}
    (same : ∀ file, storage.files[changed]? = some file →
      (change file).behaviour = file.behaviour) :
    (storage.modify changed change).behaviour? id = storage.behaviour? id := by
  by_cases hit : id = changed
  · subst hit
    cases found : storage.files[id]? with
    | none => simp [behaviour?, modify, found]
    | some file =>
      rw [behaviour?, getElem?_modify_same found, behaviour?, found]
      exact congrArg some (same file found)
  · rw [behaviour?, getElem?_modify_other storage hit, behaviour?]

theorem File.write_behaviour (file : File) (position : Nat) (data : Bytes) :
    (file.write position data).2.behaviour = file.behaviour := by
  unfold write
  dsimp only
  split <;> rfl

theorem File.rewind_behaviour (file : File) : file.rewind.2.behaviour = file.behaviour := by
  unfold rewind
  dsimp only
  split <;> rfl

structure Kept (storage : Storage) (destination : Destination) (next : Destination)
    (later : Storage) : Prop where
  file : next.file = destination.file
  path : next.path = destination.path
  tree : later.tree = storage.tree
  behaviour : ∀ id, later.behaviour? id = storage.behaviour? id

theorem write_kept (storage : Storage) (destination : Destination) (data : Bytes) :
    Kept storage destination (storage.write destination data).2.1
      (storage.write destination data).2.2 := by
  unfold write
  split
  · exact ⟨rfl, rfl, rfl, fun _ => rfl⟩
  · next file found =>
    have same := file.write_behaviour destination.position data
    split <;> next result =>
      rw [result] at same
      refine ⟨rfl, rfl, rfl, fun id => behaviour?_modify _ _ id ?_⟩
      intro other stored
      rw [same, Option.some.inj (found.symm.trans stored)]

theorem rewind_kept (storage : Storage) (destination : Destination) :
    Kept storage destination (storage.rewind destination).2.1
      (storage.rewind destination).2.2 := by
  unfold rewind
  split
  · exact ⟨rfl, rfl, rfl, fun _ => rfl⟩
  · next file found =>
    have same := file.rewind_behaviour
    split <;> next result =>
      rw [result] at same
      refine ⟨rfl, rfl, rfl, fun id => behaviour?_modify _ _ id ?_⟩
      intro other stored
      rw [same, Option.some.inj (found.symm.trans stored)]

theorem write_ready {storage : Storage} {destination : Destination}
    (ready : storage.Ready destination) {data : Bytes} (filled : data ≠ []) :
    ∃ taken later, 0 < taken
      ∧ storage.write destination data
        = (.ok taken, { destination with position := destination.position + taken }, later)
      ∧ later.Ready { destination with position := destination.position + taken }
      ∧ Grown storage later destination.file (data.take taken) := by
  obtain ⟨file, found, accepts, atEnd⟩ := ready
  obtain ⟨taken, after, wrote, took⟩ := File.write_end accepts filled
  have now := getElem?_modify_same found fun _ => after
  refine ⟨taken, storage.modify destination.file fun _ => after, took.positive, ?_, ?_, ?_⟩
  · simp only [write, found, atEnd, wrote]
  · exact ⟨after, now, took.behaviour ▸ accepts, by rw [took.size, atEnd]⟩
  · refine ⟨?_, fun other different => getElem?_modify_other storage different _,
      length_modify ..⟩
    rw [content_of_getElem? now, content_of_getElem? found, took.content]

theorem content_close (storage : Storage) (destination : Destination) (id : Nat) :
    (storage.close destination).2.content id = storage.content id := by
  unfold close
  split
  · rfl
  · next file found =>
    by_cases same : id = destination.file
    · subst same
      rw [content_of_getElem? (getElem?_modify_same found _), content_of_getElem? found, File.close]
      split <;> rfl
    · exact content_congr (getElem?_modify_other storage same _)

theorem tree_close (storage : Storage) (destination : Destination) :
    (storage.close destination).2.tree = storage.tree := by
  unfold close
  split <;> rfl

theorem length_close (storage : Storage) (destination : Destination) :
    (storage.close destination).2.files.length = storage.files.length := by
  unfold close
  split
  · rfl
  · exact length_modify ..

theorem flatMap_content_grown {before after : Storage} {id : Nat} {data : Bytes} {earlier : List Nat}
    (grown : Grown before after id data) (distinct : (earlier ++ [id]).Nodup) :
    (earlier ++ [id]).flatMap after.content = (earlier ++ [id]).flatMap before.content ++ data := by
  have kept : earlier.flatMap after.content = earlier.flatMap before.content := by
    apply List.flatMap_congr
    intro other member
    have different := (List.nodup_append.mp distinct).2.2 other member id (List.mem_singleton_self id)
    exact content_congr (grown.others other different)
  simp only [List.flatMap_append, List.flatMap_singleton, kept, grown.content, List.append_assoc]

end MpegRecorder.Storage
