import MpegRecorder.Proofs.Output.Stranded

/-!
What becomes of the bytes that wait while no destination can be opened. Each flush looks for a splice
point again before it tries to open the destination asked for: the bytes in front of the one it finds
are lost, and so are all of them if it finds none and may search on. What is not lost in this way goes
to the destination that is opened in the end, and nothing else does.
-/

namespace MpegRecorder.Output

open Storage

/-- The bytes that a flush loses while no destination is open. -/
def forfeit (output : Output) : Bytes :=
  match output.request with
  | none => output.buffer.content
  | some request =>
    match output.policy.findCut output.buffer.content with
    | some cut => output.buffer.content.take cut
    | none =>
      if output.scanLimit < request.scanned + output.buffer.content.length then []
      else output.buffer.content

variable {output : Output} {medium : Medium} {destination : Destination} {data : Bytes}

theorem flush_stranded (stranded : output.Stranded) (medium : Medium) :
    ∃ kept, output.forfeit ++ kept = output.buffer.content
      ∧ ((output.flush medium).1.Stranded ∧ (output.flush medium).1.buffer.content = kept
        ∨ (output.flush medium).1.Settled ∧ (output.flush medium).1.buffer.content = []
          ∧ ∃ destination, (output.flush medium).1.Began (output.flush medium).2.storage
              destination kept) := by
  obtain ⟨shut, asked⟩ := stranded
  obtain ⟨request, waits⟩ := Option.isSome_iff_exists.mp asked
  have flushed : output.flush medium = (output.tryCut medium false).2 := by
    simp only [flush, asked, ↓reduceIte]
  rw [flushed]
  by_cases empty : output.buffer.content = []
  · have nothing : output.forfeit = [] := by
      simp only [forfeit, waits, empty, List.take_nil]
      split
      · rfl
      · split <;> rfl
    rw [tryCut_of_empty empty, nothing, empty]
    exact ⟨[], rfl, .inl ⟨⟨shut, asked⟩, rfl⟩⟩
  · let searched : Output := { output with request := some (request.after output) }
    have still : searched.destination = none := shut
    have waiting : searched.request.isSome := rfl
    simp only [forfeit, waits]
    cases found : output.policy.findCut output.buffer.content with
    | some cut =>
      rw [tryCut_of_found waits (.inl empty) found]
      exact ⟨_, List.take_append_drop .., moveAt_outcome waiting medium _ cut⟩
    | none =>
      by_cases beyond : output.scanLimit < (request.after output).scanned
      · rw [tryCut_of_given_up waits (.inl empty) found (.inr beyond)]
        refine ⟨_, ?_, moveAt_outcome waiting medium _ 0⟩
        exact congrArg (· ++ output.buffer.content) (if_pos beyond)
      · rw [tryCut_of_missing waits empty found beyond, flushAll_shut still]
        refine ⟨[], ?_, .inl ⟨⟨shut, rfl⟩, rfl⟩⟩
        rw [List.append_nil]
        exact if_neg beyond

def Operation.forfeit (output : Output) : Operation → Bytes
  | append data => if output.buffer.remaining < data.length then output.forfeit else []
  | flush => output.forfeit
  | _ => []

def lost : List Operation → Output × Medium → Bytes
  | [], _ => []
  | operation :: rest, state => operation.forfeit state.1 ++ lost rest (operation.perform state)

theorem lost_append (earlier later : List Operation) (state : Output × Medium) :
    lost (earlier ++ later) state = lost earlier state ++ lost later (run earlier state) := by
  induction earlier generalizing state with
  | nil => rfl
  | cons operation rest ih =>
    rw [List.cons_append, lost, lost, ih, List.append_assoc]
    rfl

/-- What waits is parted by one call into what is lost and what is kept, in this order. -/
theorem Stranded.perform (stranded : output.Stranded) {operation : Operation}
    (feeds : operation.Feeds) (medium : Medium) :
    let next := operation.perform (output, medium)
    (next.1.Stranded ∧ operation.forfeit output ++ next.1.buffer.content
        = output.buffer.content ++ operation.data)
      ∨ next.1.Settled ∧ ∃ destination received, next.1.Began next.2.storage destination received
        ∧ operation.forfeit output ++ (received ++ next.1.buffer.content)
          = output.buffer.content ++ operation.data := by
  cases operation with
  | append data =>
    by_cases full : output.buffer.remaining < data.length
    · obtain ⟨kept, parted, outcome⟩ := flush_stranded stranded medium
      simp only [Operation.perform, append_of_full full, Operation.forfeit, if_pos full, Operation.data,
        Buffer.extend, Buffer.content_makeRoom, ← parted, List.append_assoc, List.append_cancel_left_eq]
      rcases outcome with ⟨⟨shut, asked⟩, same⟩ | ⟨⟨isOpen, idle⟩, empty, destination, began⟩
      · exact .inl ⟨⟨shut, asked⟩, congrArg (· ++ data) same⟩
      · refine .inr ⟨⟨isOpen, idle⟩, destination, kept, ⟨began.isOpen, began.handed⟩, ?_⟩
        rw [empty, List.nil_append]
    · simp only [Operation.perform, append_of_room full, Operation.forfeit, if_neg full]
      exact .inl ⟨⟨stranded.shut, stranded.asked⟩, rfl⟩
  | flush =>
    obtain ⟨kept, parted, outcome⟩ := flush_stranded stranded medium
    simp only [Operation.perform, Operation.forfeit, Operation.data, List.append_nil, ← parted,
      List.append_cancel_left_eq]
    rcases outcome with ⟨still, same⟩ | ⟨settled, empty, destination, began⟩
    · exact .inl ⟨still, same⟩
    · refine .inr ⟨settled, destination, kept, began, ?_⟩
      rw [empty, List.append_nil]
  | _ => exact feeds.elim

theorem Stranded.run (stranded : output.Stranded) {operations : List Operation}
    (feeding : ∀ operation ∈ operations, operation.Feeds) (medium : Medium)
    (waiting : (run operations (output, medium)).1.destination = none) :
    (run operations (output, medium)).1.Stranded
      ∧ lost operations (output, medium) ++ (run operations (output, medium)).1.buffer.content
        = output.buffer.content ++ appended operations := by
  induction operations generalizing output medium with
  | nil => exact ⟨stranded, (List.append_nil _).symm⟩
  | cons operation rest ih =>
    have later : ∀ other ∈ rest, other.Feeds :=
      fun other member => feeding other (List.mem_cons_of_mem _ member)
    rcases stranded.perform (feeding operation (List.mem_cons_self ..)) medium with
      ⟨still, parted⟩ | ⟨settled, -⟩
    · obtain ⟨last, whole⟩ := ih still later (operation.perform (output, medium)).2 waiting
      refine ⟨last, ?_⟩
      calc lost (operation :: rest) (output, medium)
            ++ (Output.run (operation :: rest) (output, medium)).1.buffer.content
          = operation.forfeit output ++ (lost rest (operation.perform (output, medium))
            ++ (Output.run rest (operation.perform (output, medium))).1.buffer.content) :=
            List.append_assoc ..
        _ = operation.forfeit output
            ++ ((operation.perform (output, medium)).1.buffer.content ++ appended rest) := by
            rw [← whole]
        _ = output.buffer.content ++ operation.data ++ appended rest := by
            rw [← List.append_assoc, parted]
        _ = output.buffer.content ++ appended (operation :: rest) := by
            rw [List.append_assoc]
            rfl
    · -- once a destination is open, feeding does not close it
      have isOpen := (settled.run later (operation.perform (output, medium)).2).isOpen
      rw [Output.run, List.foldl_cons] at waiting
      have shut : (Output.run rest (operation.perform (output, medium))).1.destination = none := waiting
      rw [shut] at isOpen
      cases isOpen

/--
Everything that waited after the failure and was handed over since goes to the destination opened in
the end, but for what the flushes on the way lost: the destination gets all of it exactly when each
of these flushes lost nothing.
-/
theorem received_after_failed_open (stranded : output.Stranded) (medium : Medium)
    (operations : List Operation) (last : Operation)
    (feeding : ∀ operation ∈ operations ++ [last], operation.Feeds)
    (waiting : (run operations (output, medium)).1.destination = none)
    (reopened : (run (operations ++ [last]) (output, medium)).1.destination = some destination) :
    let handed := output.buffer.content ++ appended (operations ++ [last])
    let gone := lost (operations ++ [last]) (output, medium)
    let now := run (operations ++ [last]) (output, medium)
    ∃ received, now.1.Began now.2.storage destination received
      ∧ gone ++ (received ++ now.1.buffer.content) = handed
      ∧ (received ++ now.1.buffer.content = handed ↔ gone = [])
      ∧ ∀ behaviour, now.2.storage.behaviour? destination.file = some behaviour →
          behaviour.Accepts → now.1.ring.limit = 0 →
          now.2.storage.content destination.file = received := by
  have feeds : last.Feeds := feeding last (List.mem_append_right _ (List.mem_singleton_self _))
  obtain ⟨still, whole⟩ := stranded.run
    (fun operation member => feeding operation (List.mem_append_left _ member)) medium waiting
  have stepped : run (operations ++ [last]) (output, medium)
      = last.perform (run operations (output, medium)) :=
    run_append ..
  have gone : lost (operations ++ [last]) (output, medium)
      = lost operations (output, medium) ++ last.forfeit (run operations (output, medium)).1 := by
    rw [lost_append, lost, lost, List.append_nil]
  rw [stepped] at reopened ⊢
  rcases still.perform feeds (run operations (output, medium)).2 with
    ⟨⟨shut, -⟩, -⟩ | ⟨-, other, received, began, parted⟩
  · rw [reopened] at shut
    cases shut
  · have same : other = destination := Option.some.inj (began.isOpen.symm.trans reopened)
    subst same
    have conserved :
        lost (operations ++ [last]) (output, medium)
            ++ (received ++ (last.perform (run operations (output, medium))).1.buffer.content)
          = output.buffer.content ++ appended (operations ++ [last]) := by
      rw [gone, List.append_assoc, parted, ← List.append_assoc, whole, appended_append,
        List.append_assoc]
      simp only [appended, List.flatMap_singleton]
    refine ⟨received, began, conserved, ?_, fun behaviour behaves accepts off =>
      began.content off behaves accepts⟩
    rw [← conserved]
    exact List.self_eq_append_left

def refusedSetup : Session.Setup Unit where
  destination := ⟨0, 0, "first.ts"⟩
  factory := ()
  opener := .memory ⟨fun attempt => if attempt = 0 then none else some .healthy, 0, []⟩
  output := .transport
  capture := .other
  delivery := .unknown
  tuning := .automatic
  config := { Config.standard with writeBuffer := 4, scanLimit := 8 }
  registered := false

def refusedMedium : Medium :=
  ⟨((Storage.empty []).addFile "first.ts" .healthy).2, .empty⟩

def refusedCalls : List Operation :=
  [.setPolicy .transport (some .h264) (some 0x100), .append [1, 2, 3], .startSwitch "second.ts" 0,
    .append [4, 5], .forceSwitch]

def refused : Output × Medium :=
  run refusedCalls (refusedSetup.newOutput 0, refusedMedium)

/-- The forced move was refused with two bytes waiting; the next flush loses them. -/
theorem received_after_refused :
    refused.1.Stranded ∧ refused.1.buffer.content = [4, 5]
      ∧ lost [.flush, .append [6, 7], .flush] refused = [4, 5]
      ∧ ∃ received,
        let now := run [.flush, .append [6, 7], .flush] refused
        now.1.Began now.2.storage ⟨1, 2, "second.ts"⟩ received
          ∧ [4, 5] ++ (received ++ now.1.buffer.content) = [4, 5, 6, 7]
          ∧ now.2.storage.content 1 = received := by
  have stranded : refused.1.Stranded := ⟨by decide +kernel, by decide +kernel⟩
  have waits : refused.1.buffer.content = [4, 5] := by decide +kernel
  have gone : lost [.flush, .append [6, 7], .flush] refused = [4, 5] := by decide +kernel
  have reopened : (run [.flush, .append [6, 7], .flush] refused).1.destination
      = some ⟨1, 2, "second.ts"⟩ := by decide +kernel
  have behaves : (run [.flush, .append [6, 7], .flush] refused).2.storage.behaviour? 1
      = some .healthy := by with_unfolding_all rfl
  obtain ⟨received, began, conserved, -, content⟩ :=
    received_after_failed_open stranded refused.2 [.flush, .append [6, 7]] .flush
      (by simp [Operation.Feeds]) (by decide +kernel) reopened
  refine ⟨stranded, waits, gone, received, began, ?_, ?_⟩
  · have whole : refused.1.buffer.content ++ appended [.flush, .append [6, 7], .flush]
        = [4, 5, 6, 7] := by decide +kernel
    rw [← whole, ← gone]
    exact conserved
  · exact content .healthy behaves Behaviour.healthy_accepts (by decide +kernel)

/-- What waited after the failure is not in the file that is opened in the end. -/
theorem lost_after_refused :
    refused.1.destination = none ∧ refused.1.request.isSome ∧ refused.1.buffer.content = [4, 5]
      ∧ (run [.flush, .append [6, 7]] refused).1.destination = none
      ∧ (run [.flush, .append [6, 7], .flush] refused).1.destination = some ⟨1, 2, "second.ts"⟩
      ∧ (run [.flush, .append [6, 7], .flush] refused).2.storage.content 1 = [6, 7] := by
  refine ⟨?_, ?_, ?_, ?_, ?_, ?_⟩ <;> decide +kernel

end MpegRecorder.Output
