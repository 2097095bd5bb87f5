import MpegRecorder.Proofs.Output.Move

/-!
What an output stays, whatever is written, searched and opened: the recording that it belongs to, what it
searches for and how far, and whether it is registered, takes bytes and has ended.
-/

namespace MpegRecorder.Output

/-- The outputs belong to one recording and are in the same phase of it. -/
structure Frame (before after : Output) : Prop where
  recording : after.recording = before.recording
  policy : after.policy = before.policy
  registered : after.registered = before.registered
  scanLimit : after.scanLimit = before.scanLimit
  accepting : after.accepting = before.accepting
  closed : after.closed = before.closed

theorem Frame.refl (output : Output) : Frame output output :=
  ⟨rfl, rfl, rfl, rfl, rfl, rfl⟩

theorem Frame.trans {first second third : Output} (start : Frame first second)
    (rest : Frame second third) : Frame first third where
  recording := rest.recording.trans start.recording
  policy := rest.policy.trans start.policy
  registered := rest.registered.trans start.registered
  scanLimit := rest.scanLimit.trans start.scanLimit
  accepting := rest.accepting.trans start.accepting
  closed := rest.closed.trans start.closed

theorem Frame.asking (output : Output) (request : Request) :
    Frame output { output with request := some request } :=
  ⟨rfl, rfl, rfl, rfl, rfl, rfl⟩

variable (output : Output) (medium : Medium)

theorem frame_writeOut (data : Bytes) : Frame output (output.writeOut medium data).1 := by
  unfold writeOut
  split
  · exact .refl output
  · exact ⟨rfl, rfl, rfl, rfl, rfl, rfl⟩

theorem frame_flushAll : Frame output (output.flushAll medium).1 := by
  have cleared : Frame output { output with buffer := output.buffer.clear } :=
    ⟨rfl, rfl, rfl, rfl, rfl, rfl⟩
  exact cleared.trans (frame_writeOut ..)

theorem frame_closeDestination : Frame output (output.closeDestination medium).1 := by
  unfold closeDestination
  split
  · exact .refl output
  · exact ⟨rfl, rfl, rfl, rfl, rfl, rfl⟩

theorem frame_release (cut : Nat) : Frame output (output.release medium cut).1 := by
  have parted : Frame output { output with buffer := (output.buffer.splitTo cut).2 } :=
    ⟨rfl, rfl, rfl, rfl, rfl, rfl⟩
  exact (parted.trans (frame_writeOut ..)).trans (frame_closeDestination ..)

theorem frame_moveAt (request : Request) (cut : Nat) :
    Frame output (output.moveAt medium request cut).2.1 := by
  have released := output.frame_release medium cut
  rw [moveAt_eq]
  split
  · next opener storage _ =>
    have refused : Frame (output.release medium cut).1 { (output.release medium cut).1 with opener } :=
      ⟨rfl, rfl, rfl, rfl, rfl, rfl⟩
    exact released.trans refused
  · next destination opener storage _ =>
    have entered : Frame (output.release medium cut).1
        ((output.release medium cut).1.enter opener destination) :=
      ⟨rfl, rfl, rfl, rfl, rfl, rfl⟩
    unfold adopt
    exact (released.trans entered).trans (frame_flushAll ..)

theorem frame_tryCut (force : Bool) : Frame output (output.tryCut medium force).2.1 := by
  unfold tryCut
  split
  · exact .refl output
  · split
    · exact .refl output
    · dsimp only
      split
      · exact (Frame.asking ..).trans (frame_moveAt ..)
      · split
        · exact (Frame.asking ..).trans (frame_moveAt ..)
        · exact (Frame.asking ..).trans (frame_flushAll ..)

theorem closed_finish : (output.finish medium).1.closed = true := by
  let forced := { output with closed := true }.forceSwitch medium
  let written := forced.1.flushAll forced.2
  have settled : Frame { output with closed := true } forced.1 := frame_tryCut ..
  have drained : Frame forced.1 written.1 := frame_flushAll ..
  have shut : Frame written.1 (written.1.closeDestination written.2).1 := frame_closeDestination ..
  exact ((settled.trans drained).trans shut).closed

end MpegRecorder.Output
