import MpegRecorder.Proofs.Capture.Pieces

/-!
A feeder that is set back goes through the retained bytes as a new one does; only its count of dropped
bytes goes on. And pushing a stream in two pieces is pushing it at once.
-/

namespace MpegRecorder

theorem Packed.ext_toList {left right : Packed} (same : left.toList = right.toList) : left = right := by
  obtain ⟨⟨⟨left⟩⟩⟩ := left
  obtain ⟨⟨⟨right⟩⟩⟩ := right
  cases same
  rfl

namespace Capture

open Transport

def Alignment.shift (alignment : Alignment) (count : Nat) : Alignment :=
  { alignment with dropped := count + alignment.dropped }

theorem Alignment.settle_shift (size : Nat) (alignment : Alignment) (count : Nat) (window : Packed) :
    (alignment.shift count).settle size window =
      ((alignment.settle size window).1.shift count, (alignment.settle size window).2) := by
  by_cases settled :
      window.head? = none ∨ alignment.synced = true ∧ window.head? = some syncByte
  · have shifted : (alignment.shift count).settle size window = _ := if_pos settled
    have plain : alignment.settle size window = _ := if_pos settled
    rw [shifted, plain]
  · have shifted : (alignment.shift count).settle size window = _ := if_neg settled
    have plain : alignment.settle size window = _ := if_neg settled
    rw [shifted, plain]
    split <;> simp only [shift, Nat.add_assoc]

namespace Feeder

theorem ext {left right : Feeder} (packetSize : left.packetSize = right.packetSize)
    (unit : left.unit = right.unit) (alignment : left.alignment = right.alignment)
    (pending : left.pending = right.pending) : left = right := by
  cases left
  cases right
  cases packetSize
  cases unit
  cases alignment
  cases pending
  rfl

def shift (feeder : Feeder) (count : Nat) : Feeder :=
  { feeder with alignment := feeder.alignment.shift count }

@[simp] theorem dropped_shift (feeder : Feeder) (count : Nat) :
    (feeder.shift count).dropped = count + feeder.dropped := rfl

theorem finish_shift (feeder : Feeder) (count : Nat) :
    (feeder.shift count).finish = (feeder.finish.1, feeder.finish.2.shift count) := by
  have settled : (feeder.shift count).alignment.settle (feeder.shift count).packetSize
      (feeder.shift count).pending = _ := Alignment.settle_shift ..
  simp only [finish, settled, Alignment.shift, Nat.add_assoc]
  rfl

/-- A feeder that aligns as it should: what it keeps is sound, and a unit shows a boundary. -/
structure Fit (feeder : Feeder) : Prop where
  sound : feeder.Sound
  confirms : Sync.span feeder.packetSize ≤ feeder.unit

variable {feeder : Feeder}

theorem Fit.new {size unit : Nat} (positive : 0 < unit) (confirms : Sync.span size ≤ unit) :
    (new size unit positive).Fit :=
  ⟨Alignment.Sound.empty .., confirms⟩

theorem Fit.shift (fit : feeder.Fit) (count : Nat) : (feeder.shift count).Fit :=
  ⟨fit.sound, fit.confirms⟩

theorem Fit.push (fit : feeder.Fit) (input : Bytes) : (feeder.push input).2.Fit := by
  obtain ⟨-, alike⟩ := push_outlook feeder input [] fit.sound fit.confirms
  refine ⟨alike.sound, ?_⟩
  rw [alike.packetSize, alike.unit]
  exact fit.confirms

theorem Fit.passage_push (fit : feeder.Fit) (input : Bytes) :
    passage (feeder.push input) = feeder.outlook input := by
  obtain ⟨same, alike⟩ := push_outlook feeder input [] fit.sound fit.confirms
  rw [List.append_nil, alike.sound.outlook] at same
  rw [same]
  simp only [passage, Passage.emit, List.append_nil]

theorem eq_of_passage {left right : List Bytes × Feeder} (same : passage left = passage right)
    (packetSize : left.2.packetSize = right.2.packetSize) (unit : left.2.unit = right.2.unit) :
    left = right := by
  obtain ⟨chunks, pending, synced, dropped⟩ := Passage.mk.inj same
  refine Prod.ext chunks (ext packetSize unit ?_ (Packed.ext_toList pending))
  exact congrArg₂ Alignment.mk synced dropped

theorem Fit.sizes_push (fit : feeder.Fit) (input : Bytes) :
    (feeder.push input).2.packetSize = feeder.packetSize ∧ (feeder.push input).2.unit = feeder.unit :=
  have alike := (push_outlook feeder input [] fit.sound fit.confirms).2
  ⟨alike.packetSize, alike.unit⟩

theorem outlook_shift (feeder : Feeder) (count : Nat) (stream : Bytes) :
    (feeder.shift count).outlook stream = (feeder.outlook stream).skip count :=
  (Passage.skip_skip ..).symm

/-- What was dropped before has no part in what a feeder does with a piece. -/
theorem Fit.push_shift (fit : feeder.Fit) (count : Nat) (input : Bytes) :
    (feeder.shift count).push input =
      ((feeder.push input).1, (feeder.push input).2.shift count) := by
  have shifted := (fit.shift count).sizes_push input
  have plain := fit.sizes_push input
  refine eq_of_passage ?_ (shifted.1.trans plain.1.symm) (shifted.2.trans plain.2.symm)
  rw [(fit.shift count).passage_push, outlook_shift, ← fit.passage_push]
  rfl

theorem Fit.push_append (fit : feeder.Fit) (input more : Bytes) :
    feeder.push (input ++ more) =
      ((feeder.push input).1 ++ ((feeder.push input).2.push more).1,
        ((feeder.push input).2.push more).2) := by
  have whole := fit.sizes_push (input ++ more)
  have first := fit.sizes_push input
  have second := (fit.push input).sizes_push more
  refine eq_of_passage ?_ (whole.1.trans (second.1.trans first.1).symm)
    (whole.2.trans (second.2.trans first.2).symm)
  rw [fit.passage_push, (push_outlook feeder input more fit.sound fit.confirms).1,
    ← (fit.push input).passage_push]
  rfl

theorem reset_eq {size unit : Nat} (positive : 0 < unit) (packetSize : feeder.packetSize = size)
    (long : feeder.unit = unit) :
    feeder.reset = (new size unit positive).shift feeder.dropped := by
  cases packetSize
  cases long
  rfl

end Feeder

end Capture

end MpegRecorder
