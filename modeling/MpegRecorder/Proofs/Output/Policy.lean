import MpegRecorder.Proofs.Output.Whereabouts

/-!
The policy for splice points is read only while a request waits. Until then an output does the same with
the bytes that it is handed under every policy, to the end of the recording.
-/

namespace MpegRecorder.Output

theorem Whereabouts.idle {before after : Output × Medium} (whereabouts : Whereabouts before after)
    (idle : before.1.request = none) : after.1.request = none := by
  cases whereabouts with
  | stays _ still => exact still idle
  | moves asked => exact absurd idle asked

def under (output : Output) (policy : CutPolicy) : Output :=
  { output with policy }

variable (output : Output) (policy : CutPolicy)

theorem writeOut_under (medium : Medium) (data : Bytes) :
    (output.under policy).writeOut medium data =
      ((output.writeOut medium data).1.under policy, (output.writeOut medium data).2) := by
  cases current : output.destination <;> simp only [writeOut, under, current]

theorem flushAll_under (medium : Medium) :
    (output.under policy).flushAll medium =
      ((output.flushAll medium).1.under policy, (output.flushAll medium).2) :=
  writeOut_under { output with buffer := output.buffer.clear } policy medium output.buffer.content

theorem closeDestination_under (medium : Medium) :
    (output.under policy).closeDestination medium =
      ((output.closeDestination medium).1.under policy, (output.closeDestination medium).2) := by
  cases current : output.destination <;> simp only [closeDestination, under, current]

section Idle

variable {output : Output} (idle : output.request = none)
include idle

theorem flush_under (medium : Medium) :
    (output.under policy).flush medium =
      ((output.flush medium).1.under policy, (output.flush medium).2) := by
  have waits : (output.under policy).request = none := idle
  rw [flush_of_idle idle, flush_of_idle waits, flushAll_under]

theorem append_under (medium : Medium) (data : Bytes) :
    (output.under policy).append medium data =
      ((output.append medium data).1.under policy, (output.append medium data).2) := by
  by_cases full : output.buffer.remaining < data.length
  · have same : (output.under policy).buffer.remaining < data.length := full
    rw [append_of_full full, append_of_full same, flush_under policy idle]
    rfl
  · have same : ¬ (output.under policy).buffer.remaining < data.length := full
    rw [append_of_room full, append_of_room same]
    rfl

theorem receive_under (medium : Medium) (emission : Emission) :
    (output.under policy).receive medium emission =
      ((output.receive medium emission).1.under policy, (output.receive medium emission).2) := by
  unfold receive
  change (if output.accepting then _ else _) = _
  split
  · cases emission with
    | write data => exact append_under policy idle medium data
    | flush => exact flush_under policy idle medium
  · rfl

omit idle in
theorem receiveAll_under (idle : output.request = none) (medium : Medium)
    (emissions : List Emission) :
    (output.under policy).receiveAll medium emissions =
      ((output.receiveAll medium emissions).1.under policy,
        (output.receiveAll medium emissions).2) := by
  unfold receiveAll
  induction emissions generalizing output medium with
  | nil => rfl
  | cons emission rest ih =>
    have still : (output.receive medium emission).1.request = none :=
      (whereabouts_receive output medium emission).idle idle
    rw [List.foldl_cons, List.foldl_cons]
    dsimp only
    rw [receive_under policy idle]
    exact ih still _

theorem finish_under (medium : Medium) :
    (output.under policy).finish medium =
      ((output.finish medium).1.under policy, (output.finish medium).2) := by
  have waits : (output.under policy).request = none := idle
  have flushed : { output.under policy with closed := true }.flushAll medium =
      (({ output with closed := true }.flushAll medium).1.under policy,
        ({ output with closed := true }.flushAll medium).2) :=
    flushAll_under { output with closed := true } policy medium
  rw [finish_of_idle idle, finish_of_idle waits, flushed]
  dsimp only
  rw [closeDestination_under]
  rfl

end Idle

end MpegRecorder.Output
