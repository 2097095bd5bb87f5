import MpegRecorder.Proofs.Output.Move
import MpegRecorder.Proofs.Output.Operation
import MpegRecorder.Session.Basic

/-!
Where an output is after it was at work, and what that does to the registry. What an engine writes and
asks for settles at most the request that waits, so an output either stays at its path, and leaves the
registry alone, or it moves once, and renames the entry of the path that it leaves.
-/

namespace MpegRecorder.Output

structure Stays (before after : Output × Medium) : Prop where
  recording : after.1.recording = before.1.recording
  registered : after.1.registered = before.1.registered
  path : after.1.path = before.1.path
  switches : after.1.switches = before.1.switches
  registry : after.2.registry = before.2.registry

structure Moves (before after : Output × Medium) : Prop where
  recording : after.1.recording = before.1.recording
  registered : after.1.registered = before.1.registered
  switches : after.1.switches = before.1.switches + 1
  registry : after.2.registry =
    if before.1.registered then before.2.registry.rename before.1.path after.1.path
    else before.2.registry

/-- What becomes of an output that is asked for no other move than one that waits. -/
inductive Whereabouts (before after : Output × Medium) : Prop where
  | stays (still : Stays before after)
      (idle : before.1.request = none → after.1.request = none)
  | moves (asked : before.1.request ≠ none) (moved : Moves before after)
      (settled : after.1.request = none)

section Compose

variable {first second third : Output × Medium}

theorem Stays.refl (state : Output × Medium) : Stays state state :=
  ⟨rfl, rfl, rfl, rfl, rfl⟩

theorem Stays.trans (start : Stays first second) (rest : Stays second third) :
    Stays first third where
  recording := rest.recording.trans start.recording
  registered := rest.registered.trans start.registered
  path := rest.path.trans start.path
  switches := rest.switches.trans start.switches
  registry := rest.registry.trans start.registry

theorem Stays.moves (start : Stays first second) (rest : Moves second third) :
    Moves first third where
  recording := rest.recording.trans start.recording
  registered := rest.registered.trans start.registered
  switches := by rw [rest.switches, start.switches]
  registry := by rw [rest.registry, start.registered, start.registry, start.path]

theorem Moves.stays (start : Moves first second) (rest : Stays second third) :
    Moves first third where
  recording := rest.recording.trans start.recording
  registered := rest.registered.trans start.registered
  switches := rest.switches.trans start.switches
  registry := by rw [rest.registry, start.registry, rest.path]

theorem Whereabouts.refl (state : Output × Medium) : Whereabouts state state :=
  .stays (.refl state) id

theorem Whereabouts.trans (start : Whereabouts first second) (rest : Whereabouts second third) :
    Whereabouts first third := by
  cases start with
  | stays still idle =>
    cases rest with
    | stays later goesOn => exact .stays (still.trans later) (goesOn ∘ idle)
    | moves asked moved settled =>
      exact .moves (fun none => asked (idle none)) (still.moves moved) settled
  | moves asked moved settled =>
    cases rest with
    | stays later goesOn => exact .moves asked (moved.stays later) (goesOn settled)
    -- The one request that waited is settled.
    | moves again _ _ => exact absurd settled again

theorem Whereabouts.stays_or_moves (whereabouts : Whereabouts first second) :
    Stays first second ∨ Moves first second := by
  cases whereabouts with
  | stays still _ => exact .inl still
  | moves _ moved _ => exact .inr moved

end Compose

variable (output : Output) (medium : Medium)

theorem stays_writeOut (data : Bytes) : Stays (output, medium) (output.writeOut medium data) := by
  unfold writeOut
  split
  · exact .refl _
  · exact ⟨rfl, rfl, rfl, rfl, rfl⟩

theorem stays_flushAll : Stays (output, medium) (output.flushAll medium) := by
  have cleared : Stays (output, medium) ({ output with buffer := output.buffer.clear }, medium) :=
    ⟨rfl, rfl, rfl, rfl, rfl⟩
  exact cleared.trans (stays_writeOut ..)

theorem stays_closeDestination : Stays (output, medium) (output.closeDestination medium) := by
  unfold closeDestination
  split
  · exact .refl _
  · exact ⟨rfl, rfl, rfl, rfl, rfl⟩

theorem stays_release (cut : Nat) : Stays (output, medium) (output.release medium cut) := by
  have parted : Stays (output, medium)
      ({ output with buffer := (output.buffer.splitTo cut).2 }, medium) := ⟨rfl, rfl, rfl, rfl, rfl⟩
  exact (parted.trans (stays_writeOut ..)).trans (stays_closeDestination ..)

theorem request_flushAll : (output.flushAll medium).1.request = output.request := by
  unfold flushAll writeOut
  split <;> rfl

theorem whereabouts_flushAll : Whereabouts (output, medium) (output.flushAll medium) :=
  .stays (stays_flushAll output medium) fun idle => (request_flushAll output medium).trans idle

theorem moves_adopt (opener : Storage.Opener) (destination : Storage.Destination) :
    Moves (output, medium) ({ output with opener }.adopt medium destination) := by
  have written := stays_flushAll (output.enter opener destination) medium
  refine ⟨written.recording, written.registered, written.switches, ?_⟩
  have path : ({ output with opener }.adopt medium destination).1.path = destination.path :=
    written.path
  rw [path, ← written.registry]
  unfold adopt
  dsimp only
  split
  · rfl
  · rfl

variable {output}

theorem whereabouts_moveAt (asked : output.request ≠ none) (request : Request) (cut : Nat) :
    Whereabouts (output, medium) (output.moveAt medium request cut).2 := by
  have released := stays_release output medium cut
  rw [moveAt_eq]
  split
  · next opener storage _ =>
    have refused : Stays (output.release medium cut)
        ({ (output.release medium cut).1 with opener },
          { (output.release medium cut).2 with storage }) := ⟨rfl, rfl, rfl, rfl, rfl⟩
    exact .stays (released.trans refused) fun idle => absurd idle asked
  · next destination opener storage _ =>
    have opened : Stays (output.release medium cut)
        ((output.release medium cut).1, { (output.release medium cut).2 with storage }) :=
      ⟨rfl, rfl, rfl, rfl, rfl⟩
    have moved := (released.trans opened).moves (moves_adopt _ _ opener destination)
    exact .moves asked moved
      (request_flushAll ((output.release medium cut).1.enter opener destination) _)

variable (output)

theorem whereabouts_tryCut (force : Bool) :
    Whereabouts (output, medium) (output.tryCut medium force).2 := by
  unfold tryCut
  split
  · exact .refl _
  · next request waits =>
    have asks (next : Request) :
        Whereabouts (output, medium) ({ output with request := some next }, medium) :=
      .stays ⟨rfl, rfl, rfl, rfl, rfl⟩ fun idle => by rw [waits] at idle; cases idle
    split
    · exact .refl _
    · dsimp only
      split
      · exact (asks _).trans (whereabouts_moveAt _ (Option.some_ne_none _) ..)
      · split
        · exact (asks _).trans (whereabouts_moveAt _ (Option.some_ne_none _) ..)
        · exact (asks _).trans (whereabouts_flushAll ..)

theorem whereabouts_flush : Whereabouts (output, medium) (output.flush medium) := by
  unfold flush
  split
  · exact whereabouts_tryCut output medium false
  · exact whereabouts_flushAll output medium

theorem whereabouts_append (data : Bytes) :
    Whereabouts (output, medium) (output.append medium data) := by
  have refills (state : Output × Medium) (buffer : Buffer) :
      Whereabouts state ({ state.1 with buffer }, state.2) :=
    .stays ⟨rfl, rfl, rfl, rfl, rfl⟩ id
  by_cases full : output.buffer.remaining < data.length
  · rw [append_of_full full]
    exact (whereabouts_flush output medium).trans (refills (output.flush medium) _)
  · rw [append_of_room full]
    exact refills (output, medium) _

theorem whereabouts_receive (emission : Emission) :
    Whereabouts (output, medium) (output.receive medium emission) := by
  unfold receive
  split
  · cases emission with
    | write data => exact whereabouts_append output medium data
    | flush => exact whereabouts_flush output medium
  · exact .refl _

theorem whereabouts_receiveAll (emissions : List Emission) :
    Whereabouts (output, medium) (output.receiveAll medium emissions) := by
  have along (state : Output × Medium) :
      Whereabouts state
        (emissions.foldl (fun state emission => state.1.receive state.2 emission) state) := by
    induction emissions generalizing state with
    | nil => exact .refl state
    | cons emission rest ih => exact (whereabouts_receive state.1 state.2 emission).trans (ih _)
  exact along (output, medium)

theorem startSwitch_stays_or_moves (name : String) (token : UInt32) :
    Stays (output, medium) (output.startSwitch medium name token).2
      ∨ Moves (output, medium) (output.startSwitch medium name token).2 := by
  unfold startSwitch
  split
  · exact .inl (.refl _)
  · have asks : Stays (output, medium)
        ({ output with request := some ⟨name, token, 0⟩ }, medium) := ⟨rfl, rfl, rfl, rfl, rfl⟩
    exact (whereabouts_tryCut { output with request := some ⟨name, token, 0⟩ } medium
      false).stays_or_moves.imp asks.trans asks.moves

theorem whereabouts_forceSwitch : Whereabouts (output, medium) (output.forceSwitch medium) :=
  whereabouts_tryCut output medium true

theorem whereabouts_awaitSwitch : Whereabouts (output, medium) (output.awaitSwitch medium).2 := by
  unfold awaitSwitch
  dsimp only
  split
  · exact .refl _
  · exact whereabouts_forceSwitch output medium

theorem whereabouts_closeDestination :
    Whereabouts (output, medium) (output.closeDestination medium) := by
  refine .stays (stays_closeDestination output medium) fun idle => ?_
  unfold closeDestination
  split <;> exact idle

theorem whereabouts_finish : Whereabouts (output, medium) (output.finish medium) := by
  have ending : Whereabouts (output, medium) ({ output with closed := true }, medium) :=
    .stays ⟨rfl, rfl, rfl, rfl, rfl⟩ id
  have settled := ending.trans (whereabouts_forceSwitch _ medium)
  have written := settled.trans (whereabouts_flushAll _ _)
  have ended (state : Output × Medium) :
      Whereabouts state ({ state.1 with accepting := false }, state.2) :=
    .stays ⟨rfl, rfl, rfl, rfl, rfl⟩ id
  exact (written.trans (whereabouts_closeDestination _ _)).trans (ended _)

end MpegRecorder.Output
