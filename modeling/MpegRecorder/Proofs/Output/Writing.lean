import MpegRecorder.Output.Ring
import MpegRecorder.Proofs.Storage.Growth

/-!
What a writer leaves as it is, with a ring or without: the length of the ring, the file it writes to
and how files behave. Without a ring, a ready destination takes all bytes that the writer is given,
in as many calls as it needs, and its file grows by exactly these bytes.
-/

namespace MpegRecorder.Output.Writer

open Storage

variable {writer : Writer}

structure Kept (before after : Writer) : Prop extends
    Storage.Kept before.storage before.destination after.destination after.storage where
  limit : after.ring.limit = before.ring.limit

theorem Kept.refl (writer : Writer) : Kept writer writer :=
  ⟨⟨rfl, rfl, rfl, fun _ => rfl⟩, rfl⟩

theorem Kept.trans {first second third : Writer} (start : Kept first second)
    (rest : Kept second third) : Kept first third where
  limit := rest.limit.trans start.limit
  file := rest.file.trans start.file
  path := rest.path.trans start.path
  tree := rest.tree.trans start.tree
  behaviour id := (rest.behaviour id).trans (start.behaviour id)

theorem kept_of_wrap {writer after : Writer} {result : Except IoError Unit}
    (wrapped : writer.wrap = (result, after)) : Kept writer after := by
  have kept := Storage.rewind_kept writer.storage writer.destination
  unfold wrap at wrapped
  split at wrapped
  · split at wrapped <;> next rewound =>
      rw [rewound] at kept
      obtain ⟨-, rfl⟩ := Prod.mk.inj wrapped
      exact ⟨kept, rfl⟩
  · obtain ⟨-, rfl⟩ := Prod.mk.inj wrapped
    exact .refl writer

theorem kept_of_put {writer after : Writer} {data : Bytes} {result : Except IoError Nat}
    (put : writer.put data = (result, after)) : Kept writer after := by
  unfold Writer.put at put
  dsimp only at put
  generalize (if writer.ring.isEnabled then _ else data) = chunk at put
  have kept := Storage.write_kept writer.storage writer.destination chunk
  split at put <;> next wrote =>
    rw [wrote] at kept
    obtain ⟨-, rfl⟩ := Prod.mk.inj put
    exact ⟨kept, rfl⟩

theorem write_kept (writer : Writer) (data : Bytes) : Kept writer (writer.write data).2 := by
  fun_induction write writer data with
  | case1 writer => exact .refl writer
  | case2 writer data more error after wrapped => exact kept_of_wrap wrapped
  | case3 writer data more _ after wrapped error last put =>
    exact (kept_of_wrap wrapped).trans (kept_of_put put)
  | case4 writer data more _ after wrapped last put =>
    exact (kept_of_wrap wrapped).trans (kept_of_put put)
  | case5 writer data more _ after wrapped taken wrote put error last again =>
    have second : Kept writer wrote := (kept_of_wrap wrapped).trans (kept_of_put put)
    exact second.trans (kept_of_wrap again)
  | case6 writer data more _ after wrapped taken wrote put _ last again ih =>
    have second : Kept writer wrote := (kept_of_wrap wrapped).trans (kept_of_put put)
    have third : Kept writer last := second.trans (kept_of_wrap again)
    exact third.trans ih

theorem wrap_off (off : writer.ring.limit = 0) : writer.wrap = (.ok (), writer) := by
  simp [wrap, Ring.isDue, Ring.isEnabled, off]

/-- The writer after all of `data` went to the end of its file. -/
structure Wrote (before after : Writer) (data : Bytes) : Prop where
  ring : after.ring.limit = before.ring.limit
  file : after.destination.file = before.destination.file
  ready : after.storage.Ready after.destination
  grown : before.storage.Grown after.storage before.destination.file data

theorem put_ready (off : writer.ring.limit = 0)
    (ready : writer.storage.Ready writer.destination) {data : Bytes} (filled : data ≠ []) :
    ∃ taken after, writer.put data = (.ok (taken + 1), after)
      ∧ writer.Wrote after (data.take (taken + 1)) := by
  obtain ⟨taken, later, positive, wrote, still, grown⟩ := Storage.write_ready ready filled
  obtain ⟨taken, rfl⟩ := Nat.exists_eq_add_one.mpr positive
  refine ⟨taken, { writer with
    destination := { writer.destination with position := writer.destination.position + (taken + 1) }
    storage := later
    counters := writer.counters.add (taken + 1)
    ring := { writer.ring with sinceWrap := writer.ring.sinceWrap + (taken + 1) } }, ?_, ?_⟩
  · simp [put, Ring.isEnabled, off, wrote]
  · exact ⟨rfl, rfl, still, grown⟩

theorem Wrote.trans {first second third : Writer} {data more : Bytes}
    (start : first.Wrote second data) (rest : second.Wrote third more) :
    first.Wrote third (data ++ more) where
  ring := rest.ring.trans start.ring
  file := rest.file.trans start.file
  ready := rest.ready
  grown := start.grown.trans (start.file ▸ rest.grown)

theorem write_ready (writer : Writer) (off : writer.ring.limit = 0)
    (ready : writer.storage.Ready writer.destination) (data : Bytes) :
    ∃ after, writer.write data = (.ok (), after) ∧ writer.Wrote after data := by
  induction size : data.length using Nat.strongRecOn generalizing writer data with
  | ind count ih =>
    by_cases empty : data = []
    · subst empty
      exact ⟨writer, by simp [write], rfl, rfl, ready, .refl ..⟩
    · obtain ⟨taken, after, put, wrote⟩ := put_ready off ready empty
      have shorter : (data.drop (taken + 1)).length < count := by
        have := List.length_pos_iff.mpr empty
        rw [List.length_drop]
        omega
      have stillOff : after.ring.limit = 0 := wrote.ring.trans off
      obtain ⟨last, rest, finished⟩ := ih _ shorter after stillOff wrote.ready _ rfl
      refine ⟨last, ?_, ?_⟩
      · rw [write, dif_neg empty]
        simp only [wrap_off off, put, wrap_off stillOff, rest]
      · have whole := wrote.trans finished
        rwa [List.take_append_drop] at whole

end MpegRecorder.Output.Writer
