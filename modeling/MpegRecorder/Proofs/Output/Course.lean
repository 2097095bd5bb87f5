import MpegRecorder.Proofs.Output.Search

/-!
What an operation comes to in a recording without faults. Nothing happens, what waits is written out, or it is
searched for a splice point; then the bytes that come with the operation wait as well.
-/

namespace MpegRecorder.Output

/-- What becomes of the bytes that wait when an operation is performed, and the events that show it. -/
inductive Course (force : Bool) (events : List Event) (before after : Output × Medium) : Prop where
  | stands (same : after = before)
  | writes (written : Written before after)
  | searches (searched : Searched force before after)
      (shown : ∀ event ∈ before.1.cutEvents before.2 force, event ∈ events)

structure Adds (data : Bytes) (before after : Output × Medium) : Prop where
  file : after.1.file? = before.1.file?
  switches : after.1.switches = before.1.switches
  request : after.1.request = before.1.request
  waiting : after.1.buffer.content = before.1.buffer.content ++ data
  storage : after.2.storage = before.2.storage

theorem Adds.refl (state : Output × Medium) : Adds [] state state :=
  ⟨rfl, rfl, rfl, (List.append_nil _).symm, rfl⟩

def Operation.Forces : Operation → Prop
  | forceSwitch | awaitSwitch => True
  | _ => False

/-- The request that waits when an operation searches: the one it makes, or the one that it finds. -/
def Operation.asking : Operation → Output → Output
  | startSwitch name token, output =>
    if output.closed || output.request.isSome || output.path == name then output
    else { output with request := some ⟨name, token, 0⟩ }
  | _, output => output

def Operation.policy : Operation → CutPolicy → CutPolicy
  | setPolicy kind family videoPid, policy => { policy with output := kind, family, videoPid }
  | _, policy => policy

theorem Operation.asking_eq (operation : Operation) (output : Output) :
    ∃ request, operation.asking output = { output with request } := by
  cases operation with
  | startSwitch name token =>
    by_cases refused : (output.closed || output.request.isSome || output.path == name) = true
    · exact ⟨output.request, if_pos refused⟩
    · exact ⟨_, if_neg refused⟩
  | _ => exact ⟨output.request, rfl⟩

structure Operation.Leads (operation : Operation) (before middle after : Output × Medium) (force : Bool) :
    Prop where
  forced : force = true → operation.Forces
  course : Course force (operation.events before) (operation.asking before.1, before.2) middle
  adds : Adds operation.data middle after
  policy : after.1.policy = operation.policy before.1.policy

theorem Sound.flush_course {output : Output} {medium : Medium} (sound : output.Sound medium.storage) :
    Course false (output.flushEvents medium) (output, medium) (output.flush medium) := by
  obtain ⟨-, ⟨-, -, written⟩ | ⟨asked, searched⟩⟩ := sound.flush
  · exact .writes written
  · refine .searches searched fun event member => ?_
    rwa [flushEvents, if_pos asked]

theorem policy_flush (output : Output) (medium : Medium) :
    (output.flush medium).1.policy = output.policy := by
  unfold flush
  split
  · exact (frame_tryCut output medium false).policy
  · exact (frame_flushAll output medium).policy

theorem Sound.leads {state : Output × Medium} (sound : state.1.Sound state.2.storage)
    (operation : Operation) :
    ∃ middle force, operation.Leads state middle (operation.perform state) force := by
  obtain ⟨output, medium⟩ := state
  -- An operation searches at most once, before it adds its bytes or after it has made its request.
  cases operation with
  | append data =>
    by_cases full : output.buffer.remaining < data.length
    · have performs : (Operation.append data).perform (output, medium) = _ := append_of_full full medium
      refine ⟨output.flush medium, false, nofun, ?_, ?_, ?_⟩
      · rw [Operation.events, if_pos full]
        exact sound.flush_course
      · rw [performs]
        exact ⟨rfl, rfl, rfl, congrArg (· ++ data) (Buffer.content_makeRoom ..), rfl⟩
      · rw [performs]
        exact output.policy_flush medium
    · have performs : (Operation.append data).perform (output, medium) = _ := append_of_room full medium
      rw [performs]
      exact ⟨(output, medium), false, nofun, .stands rfl, ⟨rfl, rfl, rfl, rfl, rfl⟩, rfl⟩
  | flush =>
    exact ⟨output.flush medium, false, nofun, sound.flush_course, .refl _, output.policy_flush medium⟩
  | startSwitch name token =>
    by_cases refused : (output.closed || output.request.isSome || output.path == name) = true
    · refine ⟨(output, medium), false, nofun, .stands ?_, ?_, ?_⟩
      · rw [Operation.asking, if_pos refused]
      all_goals simp only [Operation.perform, startSwitch, if_pos refused]
      · exact .refl _
      · rfl
    · let asking : Output := { output with request := some ⟨name, token, 0⟩ }
      have ready : asking.Sound medium.storage := sound.congr rfl rfl rfl
      have performs : (Operation.startSwitch name token).perform (output, medium) =
          (asking.tryCut medium false).2 := by
        simp only [Operation.perform, startSwitch, if_neg refused]
        rfl
      refine ⟨(asking.tryCut medium false).2, false, nofun, ?_, ?_, ?_⟩
      · rw [Operation.asking, if_neg refused, Operation.events, if_neg refused]
        exact .searches (ready.tryCut false).2 fun _ => id
      · rw [performs]
        exact .refl _
      · rw [performs]
        exact (frame_tryCut asking medium false).policy
  | forceSwitch =>
    exact ⟨output.forceSwitch medium, true, fun _ => trivial, .searches (sound.tryCut true).2 fun _ => id,
      .refl _, (frame_tryCut output medium true).policy⟩
  | awaitSwitch =>
    by_cases ended : output.closed = true
    · refine ⟨(output, medium), true, fun _ => trivial, .stands rfl, ?_, ?_⟩
      all_goals simp only [Operation.perform, awaitSwitch, if_pos ended]
      · exact .refl _
      · rfl
    · refine ⟨output.forceSwitch medium, true, fun _ => trivial, ?_, ?_, ?_⟩
      · rw [Operation.events, if_neg ended]
        exact .searches (sound.tryCut true).2 fun _ => id
      all_goals simp only [Operation.perform, awaitSwitch, if_neg ended]
      · exact .refl _
      · exact (frame_tryCut output medium true).policy
  | setPolicy kind family videoPid =>
    have adds : Adds [] (output, medium)
        ((Operation.setPolicy kind family videoPid).perform (output, medium)) :=
      ⟨rfl, rfl, rfl, (List.append_nil _).symm, rfl⟩
    exact ⟨(output, medium), false, nofun, .stands rfl, adds, rfl⟩
  | setRingLimit limit =>
    have adds : Adds [] (output, medium) ((Operation.setRingLimit limit).perform (output, medium)) :=
      ⟨rfl, rfl, rfl, (List.append_nil _).symm, rfl⟩
    exact ⟨(output, medium), false, nofun, .stands rfl, adds, rfl⟩
  | detach =>
    refine ⟨(output, medium), false, nofun, .stands rfl, ?_, ?_⟩
    all_goals
      simp only [Operation.perform, Output.detach]
      split
    · exact ⟨rfl, rfl, rfl, (List.append_nil _).symm, rfl⟩
    · exact .refl _
    · rfl
    · rfl

theorem Operation.Leads.moves {operation : Operation} {before middle after : Output × Medium} {force : Bool}
    (leads : operation.Leads before middle after force) (moved : before.1.switches < after.1.switches) :
    ∃ request cut id, (operation.asking before.1).request = some request ∧
      (before.1.buffer.content ≠ [] ∨ force = true) ∧
      Chosen force request (operation.asking before.1) cut ∧ HandedOver cut before after id := by
  have alike : (operation.asking before.1).buffer = before.1.buffer ∧
      (operation.asking before.1).file? = before.1.file? ∧
      (operation.asking before.1).switches = before.1.switches := by
    obtain ⟨request, same⟩ := operation.asking_eq before.1
    rw [same]
    exact ⟨rfl, rfl, rfl⟩
  obtain ⟨buffer, file, switches⟩ := alike
  have stays (same : middle.1.switches = (operation.asking before.1).switches) : False := by
    rw [leads.adds.switches, same, switches] at moved
    exact Nat.lt_irrefl _ moved
  cases leads.course with
  | stands same => exact (stays (congrArg (·.1.switches) same)).elim
  | writes written => exact (stays written.switches).elim
  | searches searched =>
    cases searched with
    | rests same => exact (stays (congrArg (·.1.switches) same)).elim
    | misses _ _ _ _ _ written => exact (stays written.switches).elim
    | refused _ _ refused => exact (stays refused.switches).elim
    | moves waits filled chosen waiting handover =>
      refine ⟨_, _, _, waits, buffer ▸ filled, chosen, leads.adds.file.trans handover.file, ?_,
        leads.adds.request.trans handover.idle, ?_, fun other apart => ?_⟩
      · rw [leads.adds.switches, handover.switches, switches]
      · rw [leads.adds.storage, handover.content, buffer]
      · rw [leads.adds.storage, handover.others other apart, file, buffer]

end MpegRecorder.Output
