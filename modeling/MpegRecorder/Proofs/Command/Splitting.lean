import Mathlib.Logic.Relation
import MpegRecorder.Command.Splitter
import MpegRecorder.Proofs.Storage.Numbering

/-!
The files of a recording that is split: the one it starts with, and the parts that a splitter moves it to.
They are numbered in the order of the moves, so that no look at the recording, whatever became of it since
the one before, names a file that holds a part already.
-/

namespace MpegRecorder.Command.Splitter

open Storage

variable {splitter before after : Splitter} {path : String}

def advanced (splitter : Splitter) : Splitter :=
  { splitter with files := splitter.files ++ [splitter.next] }

theorem poll_eq_or (splitter : Splitter) (output : Output) (medium : Medium) :
    (splitter.poll output medium).2.1 = splitter ∨
      (splitter.poll output medium).2.1 = splitter.advanced := by
  unfold poll
  split
  · exact .inl rfl
  · split
    · exact .inl rfl
    · split
      · exact .inl rfl
      · exact .inr rfl

/-- One look at a recording, in whatever state it is by then. -/
def Look (before after : Splitter) : Prop :=
  ∃ output medium, after = (before.poll output medium).2.1

abbrev Looks : Splitter → Splitter → Prop :=
  Relation.ReflTransGen Look

theorem looks_run (splitter : Splitter) (output : Output) (medium : Medium) (polls : Nat) :
    Looks splitter (splitter.run output medium polls).1 := by
  induction polls generalizing splitter output medium with
  | zero => exact .refl
  | succ polls ih =>
    have look : Look splitter (splitter.poll output medium).2.1 := ⟨output, medium, rfl⟩
    unfold run
    split
    · next moved next later polled =>
      rw [polled] at look
      exact .head look (ih moved next later)
    · next rest polled =>
      rw [polled] at look
      exact .single look

theorem look_advanced (splitter : Splitter) : Look splitter splitter.advanced := by
  let output : Output :=
    { recording := 0
      buffer := .new 0
      destination := none
      path := splitter.next ++ "-"
      ring := .new
      counters := ⟨splitter.size, splitter.size⟩
      policy := .new .transport 0
      request := none
      opener := .healthy
      registered := false
      scanLimit := 0
      switches := 0
      accepting := true
      closed := false }
  have other : (output.path == splitter.next) = false := by simp [output]
  refine ⟨output, ⟨.empty [], .empty⟩, ?_⟩
  have long : ¬ output.counters.current < splitter.size := Nat.lt_irrefl _
  have granted : (output.closed || output.request.isSome || output.path == splitter.next) = false := other
  rw [poll, if_neg long, Output.startSwitch, granted, if_neg Bool.false_ne_true]
  rfl

structure InOrder (path : String) (splitter : Splitter) : Prop where
  path_eq : splitter.path = path
  files_eq : splitter.files =
    (List.range splitter.files.length).map fun count => Path.numbered path (count + 1)

theorem inOrder_new (path : String) (size : Nat) (token : UInt32) :
    InOrder path ⟨path, size, token, []⟩ := ⟨rfl, rfl⟩

/--
The files of a recording, the one it starts with and those a splitter moved it to, are all different, and
the next one is yet another.
-/
structure Apart (path : String) (splitter : Splitter) : Prop where
  files : (path :: splitter.files).Pairwise fun first second => Path.same first second = false
  next : ∀ file ∈ path :: splitter.files, Path.same splitter.next file = false

namespace InOrder

theorem advanced (order : InOrder path splitter) : InOrder path splitter.advanced := by
  refine ⟨order.path_eq, ?_⟩
  have named : splitter.next = Path.numbered path (splitter.files.length + 1) := by
    rw [next, order.path_eq]
  show splitter.files ++ [splitter.next] = _
  rw [Splitter.advanced, List.length_append, List.length_singleton, List.range_succ, List.map_append,
    ← order.files_eq, named]
  rfl

theorem look (order : InOrder path before) (look : Look before after) : InOrder path after := by
  obtain ⟨output, medium, rfl⟩ := look
  rcases before.poll_eq_or output medium with still | moved
  · rw [still]
    exact order
  · rw [moved]
    exact order.advanced

theorem looks (order : InOrder path before) (looks : Looks before after) : InOrder path after := by
  induction looks with
  | refl => exact order
  | tail _ look ih => exact ih.look look

variable {name : String}

theorem apart (order : InOrder path splitter) (found : Path.fileName? path = some name) :
    Apart path splitter where
  files := by
    rw [order.files_eq]
    refine List.pairwise_cons.mpr ⟨fun part member => ?_, ?_⟩
    · obtain ⟨count, -, rfl⟩ := List.mem_map.mp member
      rw [Path.same_comm]
      exact Path.same_numbered found (count + 1)
    · refine List.pairwise_map.mpr (List.pairwise_lt_range.imp fun below => ?_)
      exact Path.same_numbered_numbered found (by omega)
  next := by
    intro file member
    rw [Splitter.next, order.path_eq]
    rcases List.mem_cons.mp member with rfl | part
    · exact Path.same_numbered found (splitter.files.length + 1)
    · rw [order.files_eq] at part
      obtain ⟨count, within, rfl⟩ := List.mem_map.mp part
      have below : count < splitter.files.length := List.mem_range.mp within
      exact Path.same_numbered_numbered found (by omega)

end InOrder

/--
The parts of a recording are apart from each other and from the file that it starts with, and lie in the
same directory. So are the files that a splitter moves a recording through, whatever becomes of the
recording between two looks at it.
-/
theorem parts_apart (path : String) (named : (Path.fileName? path).isSome = true) :
    (∀ index : Nat, Path.same (Path.numbered path index) path = false
      ∧ (Path.components (Path.numbered path index)).dropLast = (Path.components path).dropLast
      ∧ Path.parentText (Path.numbered path index) = Path.parentText path)
    ∧ (∀ first second : Nat, first ≠ second →
        Path.same (Path.numbered path first) (Path.numbered path second) = false)
    ∧ (∀ size token splitter, Looks ⟨path, size, token, []⟩ splitter → Apart path splitter)
    ∧ ∀ size token output medium polls,
        Apart path (run ⟨path, size, token, []⟩ output medium polls).1 := by
  obtain ⟨name, found⟩ := Option.isSome_iff_exists.mp named
  have looked (size : Nat) (token : UInt32) (splitter : Splitter)
      (looks : Looks ⟨path, size, token, []⟩ splitter) : Apart path splitter :=
    ((inOrder_new path size token).looks looks).apart found
  exact ⟨fun index => ⟨Path.same_numbered found index, Path.directory_numbered found index⟩,
    fun first second => Path.same_numbered_numbered found, looked,
    fun size token output medium polls => looked size token _ (looks_run _ output medium polls)⟩

theorem parts_apart_release :
    (Path.fileName? "out/rec.v1.ts").isSome = true
    ∧ ∃ splitter, splitter.files = ["out/rec.v1-1.ts", "out/rec.v1-2.ts"]
      ∧ Looks ⟨"out/rec.v1.ts", 4, 0, []⟩ splitter ∧ Apart "out/rec.v1.ts" splitter := by
  have named : (Path.fileName? "out/rec.v1.ts").isSome = true := by decide +kernel
  have looks : Looks ⟨"out/rec.v1.ts", 4, 0, []⟩ (advanced (advanced ⟨"out/rec.v1.ts", 4, 0, []⟩)) :=
    .tail (.single (look_advanced _)) (look_advanced _)
  exact ⟨named, _, by decide +kernel, looks, (parts_apart "out/rec.v1.ts" named).2.2.1 _ _ _ looks⟩

end MpegRecorder.Command.Splitter
