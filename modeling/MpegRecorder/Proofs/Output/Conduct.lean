import MpegRecorder.Proofs.Output.Frame
import MpegRecorder.Proofs.Output.Whereabouts
import MpegRecorder.Proofs.Registry

/-!
What the work of an output means for the other recordings in the registry. An output that moves renames the
entry of the path that it leaves, whosever that is; it oversteps if the entry is another's. If it does not,
its own entry goes on to be for its path, and another's makes way only where the output arrives.
-/

namespace MpegRecorder.Output

open Storage

/-- Whether an output that was registered has moved away from a path whose entry is another's. -/
def oversteps (before after : Output) (registry : Registry) : Bool :=
  before.registered && decide (before.switches < after.switches)
    && (registry.get? before.path).any fun other => other != before.recording

def Located (state : Output × Medium) : Prop :=
  ∀ entry ∈ state.2.registry.entries, entry.2 = state.1.recording →
    state.1.registered = true ∧ Path.same entry.1 state.1.path = true

def Arrived (before after : Output) : Prop :=
  after.registered = true ∧ before.switches < after.switches

/--
What an output does to the registry, to the entries of others and to its own, which it keeps while it is
registered and has not ended.
-/
structure Conduct (before after : Output × Medium) : Prop where
  recording : after.1.recording = before.1.recording
  distinct : before.2.registry.Distinct → after.2.registry.Distinct
  spares : before.2.registry.Distinct → oversteps before.1 after.1 before.2.registry = false →
    Registry.Spares before.1.recording after.1.path (Arrived before.1 after.1) before.2.registry
      after.2.registry
  located : before.2.registry.Distinct → oversteps before.1 after.1 before.2.registry = false →
    Located before → Located after
  keeps : oversteps before.1 after.1 before.2.registry = false →
    before.2.registry.Lists before.1.recording → after.1.registered = true →
    after.1.closed = false → after.2.registry.Lists before.1.recording

variable {before after : Output × Medium}

theorem Stays.conduct (stays : Stays before after) : Conduct before after where
  recording := stays.recording
  distinct distinct := by rwa [stays.registry]
  spares _ _ := by
    rw [stays.registry]
    exact .refl ..
  located _ _ located := by
    unfold Located
    rw [stays.registry, stays.recording, stays.registered, stays.path]
    exact located
  keeps _ lists _ _ := by rwa [stays.registry]

theorem Moves.owns (moves : Moves before after) (registered : before.1.registered = true)
    (straight : oversteps before.1 after.1 before.2.registry = false) (other : Nat)
    (found : before.2.registry.get? before.1.path = some other) : other = before.1.recording := by
  have moved : before.1.switches < after.1.switches := by
    rw [moves.switches]
    exact Nat.lt_succ_self _
  simpa [oversteps, registered, moved, found] using straight

theorem Moves.conduct (moves : Moves before after) : Conduct before after where
  recording := moves.recording
  distinct distinct := by
    rw [moves.registry]
    split
    · exact distinct.rename ..
    · exact distinct
  spares distinct straight := by
    rw [moves.registry]
    split
    · next registered =>
      have arrived : Arrived before.1 after.1 := by
        refine ⟨moves.registered.trans registered, ?_⟩
        rw [moves.switches]
        exact Nat.lt_succ_self _
      exact distinct.spares_rename (moves.owns registered straight) after.1.path arrived
    · exact .refl ..
  located distinct straight located := by
    intro entry member own
    rw [moves.recording] at own
    rw [moves.registered]
    rw [moves.registry] at member
    split at member
    · next registered =>
      have locates : before.2.registry.Locates before.1.recording before.1.path :=
        fun entry member own => (located entry member own).2
      exact ⟨registered, Registry.locates_rename (moves.owns registered straight) locates
        after.1.path entry member own⟩
    · next outside => exact absurd (located entry member own).1 outside
  keeps straight lists _ _ := by
    rw [moves.registry]
    split
    · next registered => exact lists.rename (moves.owns registered straight) _
    · exact lists

theorem Conduct.leave (conduct : Conduct before after) (ended : after.1.closed = true) :
    Conduct before (after.1,
      { after.2 with registry := after.2.registry.unregister after.1.path after.1.recording }) where
  recording := conduct.recording
  distinct distinct := (conduct.distinct distinct).unregister ..
  spares distinct straight := by
    have leaves := (conduct.distinct distinct).spares_unregister after.1.path after.1.recording
      after.1.path (Arrived before.1 after.1)
    rw [conduct.recording] at leaves ⊢
    exact (conduct.spares distinct straight).trans leaves
  located distinct straight located entry member own :=
    conduct.located distinct straight located entry (Registry.mem_of_mem_unregister member) own
  keeps _ _ _ going := by
    rw [ended] at going
    cases going

theorem conduct_detach (output : Output) (medium : Medium) :
    Conduct (output, medium) (output.detach medium) := by
  unfold detach
  split
  · refine ⟨rfl, fun distinct => distinct.unregister .., fun distinct _ => ?_, ?_, nofun⟩
    · exact distinct.spares_unregister ..
    · intro distinct _ located entry member own
      have locates : medium.registry.Locates output.recording output.path :=
        fun entry member own => (located entry member own).2
      exact absurd own (distinct.ne_of_mem_unregister locates member)
  · exact (Stays.refl _).conduct

theorem conduct_of_stays_or_moves (came : Stays before after ∨ Moves before after) :
    Conduct before after :=
  came.elim Stays.conduct Moves.conduct

end MpegRecorder.Output
