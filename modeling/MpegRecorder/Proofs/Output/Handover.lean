import MpegRecorder.Proofs.Output.Frame
import MpegRecorder.Proofs.Output.Whereabouts
import MpegRecorder.Proofs.Storage.Faultless

/-!
What the files of a recording without faults hold after it wrote and after it moved. The file that is
written gets the bytes at its end, and a move parts what waits between the file that is left and the one
that is opened; no other file changes.
-/

namespace MpegRecorder.Output

open Storage

def file? (output : Output) : Option Nat :=
  output.destination.map fun destination => destination.file

/-- Nothing is overwritten, and nothing fails but the opening of destinations. -/
structure Sound (output : Output) (storage : Storage) : Prop where
  off : output.ring.limit = 0
  stored : storage.Faultless
  opens : output.opener.Faultless
  ready : ∀ destination, output.destination = some destination → storage.Ready destination

def Gains (before after : Storage) (file : Option Nat) (data : Bytes) : Prop :=
  ∀ id, after.content id = before.content id ++ if file = some id then data else []

theorem Gains.refl (storage : Storage) (file : Option Nat) : Gains storage storage file [] := by
  intro id
  rw [ite_self, List.append_nil]

variable {output : Output} {medium : Medium}

theorem Sound.congr {other : Output} {storage : Storage} (sound : output.Sound storage)
    (ring : other.ring.limit = output.ring.limit) (opener : other.opener = output.opener)
    (destination : other.destination = output.destination) : other.Sound storage where
  off := ring.trans sound.off
  stored := sound.stored
  opens := opener ▸ sound.opens
  ready current same := sound.ready current (destination ▸ same)

theorem Sound.writeOut (sound : output.Sound medium.storage) (data : Bytes) :
    let wrote := output.writeOut medium data
    wrote.1.Sound wrote.2.storage ∧ wrote.1.file? = output.file? ∧
      Gains medium.storage wrote.2.storage output.file? data := by
  unfold Output.writeOut file?
  cases current : output.destination with
  | none =>
    refine ⟨sound, congrArg _ current, fun id => ?_⟩
    rw [Option.map_none, if_neg (Option.some_ne_none id).symm, List.append_nil]
  | some destination =>
    let writer : Writer := ⟨output.ring, output.counters, destination, medium.storage⟩
    have kept := writer.write_kept data
    obtain ⟨after, finished, wrote⟩ := writer.write_ready sound.off (sound.ready _ current) data
    rw [finished] at kept
    dsimp only
    rw [finished]
    refine ⟨⟨wrote.ring.trans sound.off, ?_, sound.opens, ?_⟩, congrArg some wrote.file, ?_⟩
    · exact sound.stored.congr kept.tree kept.behaviour
    · intro other same
      cases same
      exact wrote.ready
    · intro id
      by_cases here : id = destination.file
      · subst here
        rw [Option.map_some, if_pos rfl]
        exact wrote.grown.content
      · rw [Option.map_some, if_neg (fun same => here (Option.some.inj same).symm), List.append_nil]
        exact content_congr (wrote.grown.others id here)

theorem Sound.flushAll (sound : output.Sound medium.storage) :
    let flushed := output.flushAll medium
    flushed.1.Sound flushed.2.storage ∧ flushed.1.file? = output.file? ∧
      flushed.1.buffer.content = [] ∧
      Gains medium.storage flushed.2.storage output.file? output.buffer.content := by
  have cleared : Sound { output with buffer := output.buffer.clear } medium.storage :=
    sound.congr rfl rfl rfl
  obtain ⟨still, file, gains⟩ := cleared.writeOut output.buffer.content
  refine ⟨still, file, ?_, gains⟩
  unfold Output.flushAll Output.writeOut
  split <;> rfl

theorem Sound.closeDestination (sound : output.Sound medium.storage) :
    let shut := output.closeDestination medium
    shut.1.Sound shut.2.storage ∧ ∀ id, shut.2.storage.content id = medium.storage.content id := by
  unfold Output.closeDestination
  split
  · exact ⟨sound, fun _ => rfl⟩
  · next destination _ =>
    exact ⟨⟨sound.off, sound.stored.close destination, sound.opens, nofun⟩, fun _ => content_close ..⟩

theorem Sound.release (sound : output.Sound medium.storage) (cut : Nat) :
    let left := output.release medium cut
    left.1.Sound left.2.storage ∧
      Gains medium.storage left.2.storage output.file? (output.buffer.content.take cut) := by
  have parted : Sound { output with buffer := (output.buffer.splitTo cut).2 } medium.storage :=
    sound.congr rfl rfl rfl
  obtain ⟨wrote, -, gains⟩ := parted.writeOut (output.buffer.splitTo cut).1
  obtain ⟨closed, same⟩ := wrote.closeDestination
  exact ⟨closed, fun id => (same id).trans (gains id)⟩

/-- The move was refused its destination: the old one is gone, and the rest still waits. -/
structure Refused (cut : Nat) (before after : Output × Medium) : Prop where
  shut : after.1.file? = none
  switches : after.1.switches = before.1.switches
  waiting : after.1.buffer.content = before.1.buffer.content.drop cut
  gains : Gains before.2.storage after.2.storage before.1.file? (before.1.buffer.content.take cut)

/-- What waited was parted between the old destination and a file that was opened for it. -/
structure HandedOver (cut : Nat) (before after : Output × Medium) (id : Nat) : Prop where
  file : after.1.file? = some id
  switches : after.1.switches = before.1.switches + 1
  idle : after.1.request = none
  content : after.2.storage.content id = before.1.buffer.content.drop cut
  others : ∀ other, other ≠ id → after.2.storage.content other =
    before.2.storage.content other ++
      if before.1.file? = some other then before.1.buffer.content.take cut else []

theorem HandedOver.unasked {cut id : Nat} {output : Output} {request : Option Request} {medium : Medium}
    {after : Output × Medium} (handover : HandedOver cut ({ output with request }, medium) after id) :
    HandedOver cut (output, medium) after id :=
  ⟨handover.file, handover.switches, handover.idle, handover.content, handover.others⟩

theorem Sound.moveAt_refused (sound : output.Sound medium.storage) {request : Request} {cut : Nat}
    {error : IoError} {opener : Opener} {storage : Storage}
    (refused : output.opener.openFile (output.release medium cut).2.storage request.name
      request.token = (.error error, opener, storage)) :
    let moved := (output.moveAt medium request cut).2
    moved.1.Sound moved.2.storage ∧ Refused cut (output, medium) moved := by
  obtain ⟨left, gains⟩ := sound.release cut
  have released := output.release_released medium cut
  have stays := stays_release output medium cut
  rw [← released.opener] at refused
  obtain ⟨still, opens, same⟩ := left.stored.openFile_refused left.opens refused
  rw [moveAt_eq, refused]
  refine ⟨⟨left.off, still, opens, fun other here => ?_⟩, ?_, stays.switches, released.content, ?_⟩
  · rw [released.shut] at here
    cases here
  · exact congrArg _ released.shut
  · intro id
    rw [← gains id]
    exact content_congr (by rw [same])

theorem Sound.moveAt_opened (sound : output.Sound medium.storage) {request : Request} {cut : Nat}
    {destination : Destination} {opener : Opener} {storage : Storage}
    (opened : output.opener.openFile (output.release medium cut).2.storage request.name
      request.token = (.ok destination, opener, storage)) :
    let moved := (output.moveAt medium request cut).2
    moved.1.Sound moved.2.storage ∧ moved.1.buffer.content = [] ∧
      HandedOver cut (output, medium) moved destination.file := by
  obtain ⟨left, gains⟩ := sound.release cut
  have released := output.release_released medium cut
  have stays := stays_release output medium cut
  have fresh := Opener.openFile_fresh opened
  have others {id : Nat} (other : id ≠ destination.file) := Opener.openFile_others opened other
  obtain ⟨same, stored⟩ := moveAt_enter opened
  rw [← released.opener] at opened
  obtain ⟨still, opens, ready⟩ := left.stored.openFile left.opens opened
  have entered : Sound ((output.release medium cut).1.enter opener destination) storage := by
    refine ⟨left.off, still, opens, fun other here => ?_⟩
    cases here
    exact ready
  let place : Medium := { (output.release medium cut).2 with storage }
  have ready : Sound ((output.release medium cut).1.enter opener destination) place.storage := entered
  obtain ⟨wrote, file, empty, more⟩ := ready.flushAll
  have count := (stays_flushAll ((output.release medium cut).1.enter opener destination) place).switches
  have idle := request_flushAll ((output.release medium cut).1.enter opener destination) place
  intro moved
  have here : ((output.release medium cut).1.enter opener destination).file? = some destination.file := rfl
  have first : moved.1 = _ := same
  have second : moved.2.storage = _ := stored
  rw [first, second]
  refine ⟨wrote, first ▸ empty, ?file, ?switches, ?idle, ?content, ?others⟩
  case file => exact first ▸ file
  case switches => exact first ▸ count.trans (congrArg (· + 1) stays.switches)
  case idle => exact first ▸ idle
  case content =>
    rw [second, more, here, if_pos rfl]
    exact (congrArg (· ++ _) fresh.empty).trans released.content
  case others =>
    intro id other
    rw [second, more, here, if_neg fun same => other (Option.some.inj same).symm, List.append_nil]
    exact (content_congr (others other)).trans (gains id)

end MpegRecorder.Output
