import MpegRecorder.Proofs.Output.Counted
import MpegRecorder.Proofs.Storage.Granting

/-!
The bytes that destinations receive, whatever opens them and whatever holds them. In a run in which no
opening is refused and no write call takes nothing, what was handed over went to the destinations, one
after the other in the order in which they were opened, or waits.
-/

namespace MpegRecorder.Output

open Storage

namespace Outside

def given (outside : Outside) : Event → Bytes
  | .write number data => data.take (outside.taken (.write number data))
  | _ => []

def received (number : Nat) : Outside → List Event → Bytes
  | _, [] => []
  | outside, event :: events =>
    (if event.target? = some number then outside.given event else [])
      ++ received number (outside.next event) events

/-- What the destinations up to a last one receive, one after the other as they were opened. -/
def handed (outside : Outside) (last : Nat) (events : List Event) : Bytes :=
  (List.range (last + 1)).flatMap fun number => outside.received number events

def stream : Outside → List Event → Bytes
  | _, [] => []
  | outside, event :: events => outside.given event ++ (outside.next event).stream events

/-- Some of what is offered is taken, and no opening is refused. -/
def serves (outside : Outside) : Event → Bool
  | .write number data => data.isEmpty || 0 < outside.taken (.write number data)
  | .refused .. => false
  | _ => true

def unhindered : Outside → List Event → Bool
  | _, [] => true
  | outside, event :: events => outside.serves event && (outside.next event).unhindered events

variable {before between after : Outside} {event : Event} {events : List Event}

theorem stream_append (history : before.History events between) (later : List Event) :
    before.stream (events ++ later) = before.stream events ++ between.stream later := by
  induction history with
  | nil => rfl
  | cons first _ ih =>
    simp only [List.cons_append, stream, first.next_eq, ih, List.append_assoc]

theorem unhindered_append (history : before.History events between) (later : List Event) :
    before.unhindered (events ++ later) = (before.unhindered events && between.unhindered later) := by
  induction history with
  | nil => rfl
  | cons first _ ih =>
    simp only [List.cons_append, unhindered, first.next_eq, ih, Bool.and_assoc]

theorem Happens.given_eq_nil (happens : Happens before event after)
    (other : event.target? ≠ some before.number) : before.given event = [] := by
  cases happens with
  | write isOpen data => exact absurd rfl other
  | rewind | close | opened | refused => rfl

theorem History.received_eq_nil (history : History before events after) {number : Nat}
    (past : number < before.number) : before.received number events = [] := by
  induction history with
  | nil => rfl
  | @cons before between after event events first rest ih =>
    have onward := first.number_le
    rw [received, first.next_eq, ih (by omega), List.append_nil]
    split
    · next here =>
      refine first.given_eq_nil fun current => ?_
      rw [here] at current
      exact Nat.ne_of_lt past (Option.some.inj current)
    · rfl

theorem flatMap_range_insert {first last : Nat} {rows : Nat → Bytes} (row : Bytes)
    (empty : ∀ number < first, rows number = []) (within : first ≤ last) :
    (List.range (last + 1)).flatMap (fun number => (if first = number then row else []) ++ rows number) =
      row ++ (List.range (last + 1)).flatMap rows := by
  induction last, within using Nat.le_induction with
  | base =>
    have before : ∀ number ∈ List.range first,
        (if first = number then row else []) ++ rows number = rows number := by
      intro number member
      rw [if_neg (Nat.ne_of_gt (List.mem_range.mp member)), List.nil_append]
    have nothing : (List.range first).flatMap rows = [] :=
      List.flatMap_eq_nil_iff.mpr fun number member => empty number (List.mem_range.mp member)
    rw [List.range_succ, List.flatMap_append, List.flatMap_append, List.flatMap_congr before, nothing]
    simp
  | succ last within ih =>
    have beyond : first ≠ last + 1 := by omega
    rw [List.range_succ, List.flatMap_append, List.flatMap_append, ih]
    simp [beyond]

/-- Only the last destination receives anything, so the calls come in the order of the destinations. -/
theorem History.handed_eq_stream (history : History before events after) :
    before.handed after.number events = before.stream events := by
  unfold handed
  induction history with
  | nil => simp [received, stream]
  | @cons before between after event events first rest ih =>
    have reached := Nat.le_trans first.number_le rest.number_le
    simp only [received, first.next_eq]
    rw [stream, first.next_eq, ← ih]
    by_cases current : event.target? = some before.number
    · simp only [current, Option.some.injEq]
      exact flatMap_range_insert _ (fun number past => rest.received_eq_nil
        (Nat.lt_of_lt_of_le past first.number_le)) reached
    · simp only [first.given_eq_nil current, ite_self, List.nil_append]

/-- Nothing that is asked of the opener is refused, and the open file takes some of all it is offered. -/
structure Willing (outside : Outside) : Prop where
  grants : outside.opener.Grants
  accepts : ∀ destination, outside.destination = some destination →
    ∃ behaviour, outside.storage.behaviour? destination.file = some behaviour ∧ behaviour.Accepts

theorem Willing.serves_write (willing : before.Willing) (number : Nat) (data : Bytes)
    (isOpen : before.destination.isSome) : before.serves (.write number data) = true := by
  obtain ⟨destination, current⟩ := Option.isSome_iff_exists.mp isOpen
  obtain ⟨behaviour, behaves, accepts⟩ := willing.accepts destination current
  obtain ⟨file, found, rfl⟩ := Option.map_eq_some_iff.mp behaves
  obtain ⟨limit, answer, positive⟩ := accepts file.writeCalls
  by_cases empty : data = []
  · rw [serves, empty]
    rfl
  · have length := List.length_pos_iff.mpr empty
    have some : 0 < min (limit.getD data.length) data.length := by
      cases limit with
      | none => simpa using length
      | some limit =>
        have : limit ≠ 0 := fun zero => positive (congrArg _ zero)
        simp only [Option.getD_some]
        omega
    simp [serves, taken, current, Storage.write, found, File.write, answer, some]

theorem Happens.willing (happens : Happens before event after) (willing : before.Willing) :
    before.serves event = true ∧ after.Willing := by
  cases happens with
  | @write destination isOpen data =>
    have kept := Storage.write_kept before.storage destination data
    refine ⟨willing.serves_write _ data (isOpen ▸ rfl), willing.grants, fun other same => ?_⟩
    cases same
    rw [kept.behaviour, kept.file]
    exact willing.accepts destination isOpen
  | @rewind destination isOpen =>
    have kept := Storage.rewind_kept before.storage destination
    refine ⟨rfl, willing.grants, fun other same => ?_⟩
    cases same
    rw [kept.behaviour, kept.file]
    exact willing.accepts destination isOpen
  | close isOpen => exact ⟨rfl, willing.grants, nofun⟩
  | @opened name token destination opener storage shut granted =>
    obtain ⟨behaviour, later, accepts, opened, still, -⟩ := willing.grants.openFile before.storage name token
    cases granted.symm.trans opened
    refine ⟨rfl, still, fun other same => ⟨behaviour, ?_, accepts⟩⟩
    cases same
    rw [behaviour?, getElem?_addFile_self]
    rfl
  | @refused name token error opener storage shut denied =>
    obtain ⟨behaviour, later, -, opened, -⟩ := willing.grants.openFile before.storage name token
    cases denied.symm.trans opened

theorem History.unhindered (history : History before events after) (willing : before.Willing) :
    before.unhindered events = true := by
  induction history with
  | nil => rfl
  | cons first _ ih =>
    obtain ⟨serves, still⟩ := first.willing willing
    rw [Outside.unhindered, serves, first.next_eq, ih still]
    rfl

end Outside

namespace Writer

variable {writer after : Writer} {data : Bytes}

theorem taken_put (number : Nat) (opener : Opener) (path : String) {result : Except IoError Nat}
    (put : writer.put data = (result, after)) :
    (writer.outside number opener path).taken (.write number (writer.offer data)) =
      result.toOption.getD 0 := by
  cases result with
  | error error =>
    obtain ⟨destination, storage, wrote, -⟩ := put_failed put
    simp only [Outside.taken, outside, wrote]
    rfl
  | ok taken =>
    obtain ⟨destination, storage, wrote, -⟩ := put_taken put
    simp only [Outside.taken, outside, wrote]
    rfl

theorem offer_of_off (off : writer.ring.limit = 0) (data : Bytes) : writer.offer data = data := by
  simp [offer, Ring.isEnabled, off]

theorem wrapEvents_of_off (number : Nat) (off : writer.ring.limit = 0) :
    writer.wrapEvents number = [] := by
  simp [wrapEvents, Ring.isDue, Ring.isEnabled, off]

theorem events_of_off (number : Nat) (off : writer.ring.limit = 0) (filled : data ≠ [])
    {result : Except IoError Nat} (put : writer.put data = (result, after)) :
    writer.events number data =
      .write number data ::
        if result.toOption.getD 0 = 0 then []
        else after.events number (data.drop (result.toOption.getD 0)) := by
  have still : after.ring.limit = 0 := (kept_of_put put).limit.trans off
  rw [events, dif_neg filled, wrapEvents_of_off number off, wrap_off off]
  simp only [put, offer_of_off off, List.nil_append]
  rcases result with error | _ | taken
  · rfl
  · rfl
  · dsimp only
    rw [wrapEvents_of_off number still, wrap_off still]
    rfl

theorem stream_events (number : Nat) (opener : Opener) (path : String) (off : writer.ring.limit = 0)
    (free : (writer.outside number opener path).unhindered (writer.events number data) = true) :
    (writer.outside number opener path).stream (writer.events number data) = data := by
  -- Each call takes some of what is left, so the induction is on how much that is.
  induction size : data.length using Nat.strongRecOn generalizing writer data with
  | ind count ih =>
    by_cases empty : data = []
    · rw [empty, events, dif_pos rfl]
      rfl
    · cases put : writer.put data with
      | mk result after =>
        have taken := taken_put number opener path put
        have next := (happens_put number opener path put).next_eq
        rw [offer_of_off off] at taken next
        rw [events_of_off number off empty put, Outside.unhindered, Bool.and_eq_true, next,
          Outside.serves, taken, Bool.or_eq_true, decide_eq_true_eq, List.isEmpty_iff] at free
        rw [events_of_off number off empty put, Outside.stream, next, Outside.given, taken]
        obtain ⟨takes, free⟩ := free
        have some : 0 < result.toOption.getD 0 := takes.resolve_left empty
        rw [if_neg (Nat.ne_of_gt some)] at free ⊢
        have still : after.ring.limit = 0 := (kept_of_put put).limit.trans off
        have shorter : (data.drop (result.toOption.getD 0)).length < count := by
          have := List.length_pos_iff.mpr empty
          rw [List.length_drop]
          omega
        rw [ih _ shorter still free rfl, List.take_append_drop]

end Writer

variable {output : Output} {medium : Medium}

structure Flowing (output : Output) : Prop where
  isOpen : output.destination.isSome
  off : output.ring.limit = 0

theorem Flowing.writeOut (flowing : output.Flowing) (medium : Medium) (data : Bytes) :
    (output.writeOut medium data).1.Flowing := by
  obtain ⟨destination, current⟩ := Option.isSome_iff_exists.mp flowing.isOpen
  have kept := Writer.write_kept ⟨output.ring, output.counters, destination, medium.storage⟩ data
  simp only [Output.writeOut, current]
  exact ⟨rfl, kept.limit.trans flowing.off⟩

theorem Flowing.stream_writeEvents (flowing : output.Flowing) {data : Bytes}
    (free : (outside (output, medium)).unhindered (output.writeEvents medium data) = true) :
    (outside (output, medium)).stream (output.writeEvents medium data) = data := by
  obtain ⟨destination, current⟩ := Option.isSome_iff_exists.mp flowing.isOpen
  simp only [writeEvents, outside, current] at free ⊢
  let writer : Writer := ⟨output.ring, output.counters, destination, medium.storage⟩
  exact writer.stream_events output.switches output.opener output.path flowing.off free

/--
What was handed over and waited before, or comes now, was received or waits. It is so only where nothing
hinders the run.
-/
structure Passed (before : Output × Medium) (data : Bytes) (events : List Event)
    (after : Output × Medium) : Prop where
  happened : (outside before).History events (outside after)
  passes : before.1.Flowing → (outside before).unhindered events = true → after.1.Flowing ∧
    before.1.buffer.content ++ data = (outside before).stream events ++ after.1.buffer.content

namespace Passed

variable {before between after : Output × Medium} {data more : Bytes} {events later : List Event}

theorem quiet (same : outside after = outside before) (limit : before.1.Flowing → after.1.Flowing)
    (waits : after.1.buffer.content = before.1.buffer.content ++ data) : Passed before data [] after where
  happened := by
    rw [same]
    exact .nil
  passes flowing _ := ⟨limit flowing, waits.symm⟩

theorem refl (state : Output × Medium) : Passed state [] [] state :=
  .quiet rfl id (List.append_nil _).symm

theorem trans (start : Passed before data events between) (rest : Passed between more later after) :
    Passed before (data ++ more) (events ++ later) after where
  happened := start.happened.append rest.happened
  passes flowing free := by
    rw [Outside.unhindered_append start.happened, Bool.and_eq_true] at free
    obtain ⟨still, first⟩ := start.passes flowing free.1
    obtain ⟨last, second⟩ := rest.passes still free.2
    refine ⟨last, ?_⟩
    rw [← List.append_assoc, first, List.append_assoc, second, Outside.stream_append start.happened,
      List.append_assoc]

end Passed

theorem content_flushAll (output : Output) (medium : Medium) :
    (output.flushAll medium).1.buffer.content = [] := by
  unfold flushAll writeOut
  split <;> rfl

theorem passed_flushAll (output : Output) (medium : Medium) :
    Passed (output, medium) [] (output.writeEvents medium output.buffer.content)
      (output.flushAll medium) where
  happened := history_flushAll output medium
  passes flowing free := by
    have cleared : Flowing { output with buffer := output.buffer.clear } := ⟨flowing.isOpen, flowing.off⟩
    refine ⟨cleared.writeOut medium output.buffer.content, ?_⟩
    rw [flowing.stream_writeEvents free, content_flushAll]

theorem ring_closeDestination (output : Output) (medium : Medium) :
    (output.closeDestination medium).1.ring = output.ring := by
  unfold closeDestination
  split <;> rfl

theorem buffer_closeDestination (output : Output) (medium : Medium) :
    (output.closeDestination medium).1.buffer = output.buffer := by
  unfold closeDestination
  split <;> rfl

theorem stream_closeEvents (output : Output) (outside : Outside) :
    outside.stream output.closeEvents = [] := by
  unfold closeEvents
  split <;> rfl

theorem Flowing.release (flowing : output.Flowing) (medium : Medium) (cut : Nat) :
    (output.release medium cut).1.ring.limit = 0 := by
  have parted : Flowing { output with buffer := (output.buffer.splitTo cut).2 } :=
    ⟨flowing.isOpen, flowing.off⟩
  have wrote := parted.writeOut medium (output.buffer.splitTo cut).1
  exact (congrArg Ring.limit (ring_closeDestination ..)).trans wrote.off

theorem Flowing.stream_release (flowing : output.Flowing) {cut : Nat}
    (free : (outside (output, medium)).unhindered
      (output.writeEvents medium (output.buffer.splitTo cut).1 ++ output.closeEvents) = true) :
    (outside (output, medium)).stream
        (output.writeEvents medium (output.buffer.splitTo cut).1 ++ output.closeEvents) =
      output.buffer.content.take cut := by
  have history := history_writeOut output medium (output.buffer.splitTo cut).1
  rw [Outside.unhindered_append history, Bool.and_eq_true] at free
  rw [Outside.stream_append history, flowing.stream_writeEvents free.1,
    stream_closeEvents, List.append_nil]
  rfl

theorem passed_moveAt (output : Output) (medium : Medium) (request : Request) (cut : Nat) :
    Passed (output, medium) [] (output.moveEvents medium request cut)
      (output.moveAt medium request cut).2 where
  happened := (counted_moveAt output medium request cut).happened
  passes flowing free := by
    have released := output.release_released medium cut
    have start := history_release output medium cut
    have off := flowing.release medium cut
    obtain ⟨result, opener, storage, opened⟩ : ∃ result opener storage,
        (output.release medium cut).1.opener.openFile (output.release medium cut).2.storage
          request.name request.token = (result, opener, storage) := ⟨_, _, _, rfl⟩
    cases result with
    | error error =>
      have events : output.moveEvents medium request cut =
          output.writeEvents medium (output.buffer.splitTo cut).1 ++ output.closeEvents
            ++ [.refused request.name request.token] := by
        rw [moveEvents, opened]
      rw [events, Outside.unhindered_append start, Bool.and_eq_true] at free
      cases free.2
    | ok destination =>
      let entered := (output.release medium cut).1.enter opener destination
      let place : Medium := { (output.release medium cut).2 with storage }
      have events : output.moveEvents medium request cut =
          output.writeEvents medium (output.buffer.splitTo cut).1 ++ output.closeEvents
            ++ .opened request.name request.token destination.path ::
              entered.writeEvents place entered.buffer.content := by
        rw [moveEvents, opened]
        rfl
      have granted : (outside (output.release medium cut)).Happens
          (.opened request.name request.token destination.path) (outside (entered, place)) :=
        .opened released.shut opened
      rw [events, Outside.unhindered_append start, Outside.unhindered, granted.next_eq,
        Bool.and_eq_true, Bool.and_eq_true] at free
      obtain ⟨left, -, entering⟩ := free
      obtain ⟨flows, rest⟩ := (passed_flushAll entered place).passes ⟨rfl, off⟩ entering
      have waiting : entered.buffer.content = output.buffer.content.drop cut := released.content
      rw [released.opener] at opened
      obtain ⟨moved, -⟩ := moveAt_enter opened
      have handed : (outside (output.release medium cut)).stream
          (.opened request.name request.token destination.path ::
            entered.writeEvents place entered.buffer.content) =
          (outside (entered, place)).stream (entered.writeEvents place entered.buffer.content) := by
        rw [Outside.stream, granted.next_eq]
        rfl
      -- The old destination gets what waits up to the cut, and the new one gets the rest.
      rw [moved, events, Outside.stream_append start, flowing.stream_release left, handed,
        List.append_assoc, ← rest, waiting, List.append_nil, List.append_nil, List.take_append_drop]
      exact ⟨flows, rfl⟩

theorem passed_asking (output : Output) (medium : Medium) (request : Option Request) :
    Passed (output, medium) [] [] ({ output with request }, medium) :=
  .quiet rfl (fun flowing => ⟨flowing.isOpen, flowing.off⟩) (List.append_nil _).symm

theorem passed_tryCut (output : Output) (medium : Medium) (force : Bool) :
    Passed (output, medium) [] (output.cutEvents medium force) (output.tryCut medium force).2 := by
  obtain ⟨nothing, idle⟩ | ⟨request, asking, -, rfl, searched⟩ := output.tryCut_cases medium force
  · rw [nothing, idle]
    exact .refl _
  · have asks := passed_asking output medium (request.after output)
    obtain ⟨cut, moves, moved⟩ | ⟨writes, flushed⟩ := searched
    · rw [moves, moved]
      exact asks.trans (passed_moveAt ..)
    · rw [writes, flushed]
      exact asks.trans (passed_flushAll ..)

theorem passed_flush (output : Output) (medium : Medium) :
    Passed (output, medium) [] (output.flushEvents medium) (output.flush medium) := by
  unfold flushEvents flush
  split
  · exact passed_tryCut output medium false
  · exact passed_flushAll output medium

theorem passed_append (output : Output) (medium : Medium) (data : Bytes) :
    Passed (output, medium) data
      (if output.buffer.remaining < data.length then output.flushEvents medium else [])
      (output.append medium data) := by
  by_cases full : output.buffer.remaining < data.length
  · rw [if_pos full, append_of_full full]
    have fills : Passed (output.flush medium) data []
        ({ (output.flush medium).1 with
          buffer := ((output.flush medium).1.buffer.makeRoom data.length).extend data },
          (output.flush medium).2) := by
      refine .quiet rfl (fun flowing => ⟨flowing.isOpen, flowing.off⟩) ?_
      exact congrArg (· ++ data) (Buffer.content_makeRoom ..)
    rw [← List.append_nil (output.flushEvents medium)]
    exact (passed_flush output medium).trans fills
  · rw [if_neg full, append_of_room full]
    exact .quiet rfl (fun flowing => ⟨flowing.isOpen, flowing.off⟩) rfl

theorem passed_perform (operation : Operation) (state : Output × Medium)
    (off : ∀ limit, operation = .setRingLimit limit → limit = 0) :
    Passed state operation.data (operation.events state) (operation.perform state) := by
  obtain ⟨output, medium⟩ := state
  cases operation with
  | append data => exact passed_append output medium data
  | flush => exact passed_flush output medium
  | startSwitch name token =>
    simp only [Operation.events, Operation.perform, startSwitch]
    split
    · exact .refl _
    · have asks := passed_asking output medium (some ⟨name, token, 0⟩)
      exact asks.trans (passed_tryCut { output with request := some ⟨name, token, 0⟩ } medium false)
  | forceSwitch => exact passed_tryCut output medium true
  | awaitSwitch =>
    simp only [Operation.events, Operation.perform, awaitSwitch]
    split
    · exact .refl _
    · exact passed_tryCut output medium true
  | setPolicy kind family videoPid =>
    exact .quiet rfl (fun flowing => ⟨flowing.isOpen, flowing.off⟩) (List.append_nil _).symm
  | setRingLimit limit =>
    exact .quiet rfl (fun flowing => ⟨flowing.isOpen, off limit rfl⟩) (List.append_nil _).symm
  | detach =>
    simp only [Operation.events, Operation.perform, detach]
    split
    · exact .quiet rfl (fun flowing => ⟨flowing.isOpen, flowing.off⟩) (List.append_nil _).symm
    · exact .refl _

theorem passed_run (operations : List Operation) (state : Output × Medium)
    (off : ∀ limit, .setRingLimit limit ∈ operations → limit = 0) :
    Passed state (appended operations) (along Operation.events operations state)
      (run operations state) := by
  induction operations generalizing state with
  | nil => exact .refl state
  | cons operation rest ih =>
    have first := passed_perform operation state fun limit same => off limit (same ▸ List.mem_cons_self ..)
    exact first.trans (ih _ fun limit member => off limit (List.mem_cons_of_mem _ member))

theorem passed_close (output : Output) (medium : Medium) :
    Passed (output, medium) [] [] ({ output with closed := true }, medium) :=
  .quiet rfl (fun flowing => ⟨flowing.isOpen, flowing.off⟩) (List.append_nil _).symm

theorem Flowing.finish (flowing : output.Flowing)
    (free : (outside (output, medium)).unhindered (output.finishEvents medium) = true) :
    (output.finish medium).1.buffer.content = [] ∧
      (outside (output, medium)).stream (output.finishEvents medium) = output.buffer.content := by
  let forced := { output with closed := true }.forceSwitch medium
  have written := (passed_close output medium).trans
    ((passed_tryCut { output with closed := true } medium true).trans (passed_flushAll forced.1 forced.2))
  have events : output.finishEvents medium = [] ++ ({ output with closed := true }.cutEvents medium true ++
      forced.1.writeEvents forced.2 forced.1.buffer.content) ++
        (forced.1.flushAll forced.2).1.closeEvents := rfl
  rw [events, Outside.unhindered_append written.happened, Bool.and_eq_true] at free
  have empty : (forced.1.flushAll forced.2).1.buffer.content = [] := content_flushAll ..
  have parted : output.buffer.content ++ [] = _ := (written.passes flowing free.1).2
  rw [empty, List.append_nil, List.append_nil] at parted
  rw [events, Outside.stream_append written.happened, stream_closeEvents, List.append_nil, ← parted]
  exact ⟨(congrArg Buffer.content (buffer_closeDestination ..)).trans empty, rfl⟩

end MpegRecorder.Output
