import MpegRecorder.Proofs.Output.Writing

/-!
The bytes that a destination takes of those that a writer is given. Whatever goes wrong on the way, they
are the front of what was given, and both counters grow by exactly as many.
-/

namespace MpegRecorder.Output.Writer

open Storage

/-- The bytes of `data` that the destination takes, call by call, before a failure ends the write. -/
def accepted (writer : Writer) (data : Bytes) : Bytes :=
  if _more : data = [] then []
  else
    match writer.wrap with
    | (.error _, _) => []
    | (.ok _, writer) =>
      match writer.put data with
      | (.error _, _) => []
      | (.ok 0, _) => []
      | (.ok (taken + 1), writer) =>
        match writer.wrap with
        | (.error _, _) => data.take (taken + 1)
        | (.ok _, writer) => data.take (taken + 1) ++ accepted writer (data.drop (taken + 1))
termination_by data.length
decreasing_by
  have := List.length_pos_iff.mpr _more
  simp only [List.length_drop]
  omega

section Equations

variable {writer wrapped wrote last : Writer} {data : Bytes} {error : IoError} {taken : Nat}

@[simp] theorem accepted_nil (writer : Writer) : writer.accepted [] = [] := by
  rw [accepted, dif_pos rfl]

theorem accepted_of_stuck (wrap : writer.wrap = (.error error, wrapped)) :
    writer.accepted data = [] := by
  by_cases empty : data = []
  · rw [empty, accepted_nil]
  · rw [accepted, dif_neg empty, wrap]

theorem accepted_of_failed (wrap : writer.wrap = (.ok (), wrapped))
    (put : wrapped.put data = (.error error, wrote)) : writer.accepted data = [] := by
  by_cases empty : data = []
  · rw [empty, accepted_nil]
  · rw [accepted, dif_neg empty, wrap]
    simp only [put]

theorem accepted_of_idle (wrap : writer.wrap = (.ok (), wrapped))
    (put : wrapped.put data = (.ok 0, wrote)) : writer.accepted data = [] := by
  by_cases empty : data = []
  · rw [empty, accepted_nil]
  · rw [accepted, dif_neg empty, wrap]
    simp only [put]

theorem accepted_of_owing (filled : data ≠ []) (wrap : writer.wrap = (.ok (), wrapped))
    (put : wrapped.put data = (.ok (taken + 1), wrote)) (again : wrote.wrap = (.error error, last)) :
    writer.accepted data = data.take (taken + 1) := by
  rw [accepted, dif_neg filled, wrap]
  simp only [put, again]

theorem accepted_of_taken (filled : data ≠ []) (wrap : writer.wrap = (.ok (), wrapped))
    (put : wrapped.put data = (.ok (taken + 1), wrote)) (again : wrote.wrap = (.ok (), last)) :
    writer.accepted data = data.take (taken + 1) ++ last.accepted (data.drop (taken + 1)) := by
  rw [accepted, dif_neg filled, wrap]
  simp only [put, again]

end Equations

/--
What every wrap keeps and every write call extends by the bytes it took holds after a whole write, for
the bytes that were taken in all.
-/
theorem write_induction {P : Writer → Bytes → Prop}
    (wrap : ∀ {writer after : Writer} {result total}, writer.wrap = (result, after) →
      P writer total → P after total)
    (failed : ∀ {writer wrapped after : Writer} {data error total},
      writer.wrap = (.ok (), wrapped) → wrapped.put data = (.error error, after) →
      P wrapped total → P after total)
    (put : ∀ {writer wrapped after : Writer} {data taken total},
      writer.wrap = (.ok (), wrapped) → wrapped.put data = (.ok taken, after) →
      P wrapped total → P after (total ++ data.take taken))
    {writer : Writer} {total : Bytes} (holds : P writer total) (data : Bytes) :
    P (writer.write data).2 (total ++ writer.accepted data) := by
  fun_induction write writer data generalizing total with
  | case1 writer =>
    rw [accepted_nil, List.append_nil]
    exact holds
  | case2 writer data more error after wrapped =>
    rw [accepted_of_stuck wrapped, List.append_nil]
    exact wrap wrapped holds
  | case3 writer data more _ after wrapped error last wrote =>
    rw [accepted_of_failed wrapped wrote, List.append_nil]
    exact failed wrapped wrote (wrap wrapped holds)
  | case4 writer data more _ after wrapped last wrote =>
    have idle := put wrapped wrote (wrap wrapped holds)
    rw [List.take_zero, List.append_nil] at idle
    rw [accepted_of_idle wrapped wrote, List.append_nil]
    exact idle
  | case5 writer data more _ after wrapped taken wrote given error last again =>
    rw [accepted_of_owing more wrapped given again]
    exact wrap again (put wrapped given (wrap wrapped holds))
  | case6 writer data more _ after wrapped taken wrote given _ last again ih =>
    rw [accepted_of_taken more wrapped given again, ← List.append_assoc]
    exact ih (wrap again (put wrapped given (wrap wrapped holds)))

theorem accepted_front (writer : Writer) (data : Bytes) : writer.accepted data <+: data := by
  fun_induction accepted writer data with
  | case1 => exact List.nil_prefix
  | case2 => exact List.nil_prefix
  | case3 => exact List.nil_prefix
  | case4 => exact List.nil_prefix
  | case5 => exact List.take_prefix ..
  | case6 writer data more _ after wrapped taken wrote given _ last again ih =>
    conv_rhs => rw [← List.take_append_drop (taken + 1) data]
    exact (List.prefix_append_right_inj _).mpr ih

theorem accepted_of_ok {writer last : Writer} {data : Bytes}
    (wrote : writer.write data = (.ok (), last)) : writer.accepted data = data := by
  fun_induction write writer data with
  | case1 writer => exact accepted_nil writer
  | case2 => cases wrote
  | case3 => cases wrote
  | case4 => cases wrote
  | case5 => cases wrote
  | case6 writer data more _ after wrapped taken next given _ later again ih =>
    rw [accepted_of_taken more wrapped given again, ih wrote, List.take_append_drop]

theorem counters_of_wrap {writer after : Writer} {result : Except IoError Unit}
    (wrapped : writer.wrap = (result, after)) : after.counters = writer.counters := by
  unfold wrap at wrapped
  split at wrapped
  · split at wrapped <;> (obtain ⟨-, rfl⟩ := Prod.mk.inj wrapped; rfl)
  · obtain ⟨-, rfl⟩ := Prod.mk.inj wrapped
    rfl

def offer (writer : Writer) (data : Bytes) : Bytes :=
  if writer.ring.isEnabled then data.take (writer.ring.limit - writer.ring.sinceWrap) else data

theorem offer_front (writer : Writer) (data : Bytes) : writer.offer data <+: data := by
  unfold offer
  split
  · exact List.take_prefix ..
  · exact List.prefix_rfl

theorem put_failed {writer after : Writer} {data : Bytes} {error : IoError}
    (put : writer.put data = (.error error, after)) :
    ∃ destination storage,
      writer.storage.write writer.destination (writer.offer data) = (.error error, destination, storage)
        ∧ after = { writer with destination, storage } := by
  unfold Writer.put at put
  dsimp only at put
  split at put
  · next destination storage wrote =>
    obtain ⟨same, rfl⟩ := Prod.mk.inj put
    exact ⟨destination, storage, Except.error.inj same ▸ wrote, rfl⟩
  · cases put

theorem put_taken {writer after : Writer} {data : Bytes} {taken : Nat}
    (put : writer.put data = (.ok taken, after)) :
    ∃ destination storage,
      writer.storage.write writer.destination (writer.offer data) = (.ok taken, destination, storage)
        ∧ after = { writer with
          destination, storage
          counters := writer.counters.add taken
          ring := { writer.ring with sinceWrap := writer.ring.sinceWrap + taken } } := by
  unfold Writer.put at put
  dsimp only at put
  split at put
  · cases put
  · next took destination storage wrote =>
    obtain ⟨same, rfl⟩ := Prod.mk.inj put
    cases Except.ok.inj same
    exact ⟨destination, storage, wrote, rfl⟩

theorem taken_le {writer after : Writer} {data : Bytes} {taken : Nat}
    (put : writer.put data = (.ok taken, after)) : taken ≤ (writer.offer data).length := by
  obtain ⟨destination, storage, wrote, -⟩ := put_taken put
  unfold Storage.write at wrote
  split at wrote
  · cases wrote
  · next file found =>
    unfold File.write at wrote
    dsimp only at wrote
    split at wrote <;> next answer =>
      split at answer
      · cases answer <;> cases wrote
      · cases answer <;> cases wrote <;> exact List.length_take_le' ..

theorem write_counters (writer : Writer) (data : Bytes) :
    (writer.write data).2.counters = writer.counters.add (writer.accepted data).length := by
  have start : writer.counters = writer.counters.add ([] : Bytes).length := rfl
  refine write_induction (P := fun now total => now.counters = writer.counters.add total.length)
    ?_ ?_ ?_ start data
  · intro before after result total wrapped counted
    rw [counters_of_wrap wrapped, counted]
  · intro before wrapped after data error total _ put counted
    obtain ⟨_, _, -, rfl⟩ := put_failed put
    exact counted
  · intro before wrapped after data taken total _ put counted
    have inside := Nat.le_trans (taken_le put) (wrapped.offer_front data).length_le
    obtain ⟨_, _, -, rfl⟩ := put_taken put
    simp only [counted, Counters.add, List.length_append, List.length_take_of_le inside, Nat.add_assoc]

end MpegRecorder.Output.Writer
