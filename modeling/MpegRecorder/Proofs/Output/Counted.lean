import Mathlib.Algebra.BigOperators.Group.Finset.Piecewise
import MpegRecorder.Proofs.Output.Served

/-!
The bytes that an output counts. Every write call adds what the destination took of it, and nothing else
adds anything; a destination that is opened starts at zero. Whatever fails on the way, the total is what
all destinations took, and the current count is what the last of them took.
-/

namespace MpegRecorder.Output

open Storage

namespace Outside

def taken (outside : Outside) : Event → Nat
  | .write _ data =>
    match outside.destination with
    | none => 0
    | some destination =>
      match (outside.storage.write destination data).1 with
      | .error _ => 0
      | .ok count => count
  | _ => 0

def next (outside : Outside) : Event → Outside
  | .write _ data =>
    match outside.destination with
    | none => outside
    | some destination =>
      { outside with
        storage := (outside.storage.write destination data).2.2
        destination := some (outside.storage.write destination data).2.1 }
  | .rewind _ =>
    match outside.destination with
    | none => outside
    | some destination =>
      { outside with
        storage := (outside.storage.rewind destination).2.2
        destination := some (outside.storage.rewind destination).2.1 }
  | .close _ =>
    match outside.destination with
    | none => outside
    | some destination =>
      { outside with storage := (outside.storage.close destination).2, destination := none }
  | .opened name token _ | .refused name token =>
    match outside.opener.openFile outside.storage name token with
    | (.error _, opener, storage) => { outside with storage, opener }
    | (.ok destination, opener, storage) =>
      ⟨storage, opener, some destination, outside.number + 1, destination.path⟩

/-- The bytes that the destination of this number accepts in a history. -/
def intake (number : Nat) : Outside → List Event → Nat
  | _, [] => 0
  | outside, event :: events =>
    (if event.target? = some number then outside.taken event else 0)
      + intake number (outside.next event) events

variable {before after : Outside} {events : List Event} {event : Event}

theorem Happens.next_eq (happens : Happens before event after) : before.next event = after := by
  cases happens with
  | write isOpen data => simp only [next, isOpen]
  | rewind isOpen => simp only [next, isOpen]
  | close isOpen => simp only [next, isOpen]
  | opened shut granted => simp only [next, granted]
  | refused shut denied => simp only [next, denied]

theorem Happens.taken_eq_zero (happens : Happens before event after)
    (other : event.target? ≠ some before.number) : before.taken event = 0 := by
  cases happens with
  | write isOpen data => exact absurd rfl other
  | rewind | close | opened | refused => rfl

theorem Happens.number_le (happens : Happens before event after) : before.number ≤ after.number := by
  rw [happens.number]
  omega

theorem History.number_le (history : History before events after) : before.number ≤ after.number := by
  rw [history.number]
  omega

end Outside

namespace Counters

def book (counters : Counters) (outside : Outside) : Event → Counters
  | .opened .. => counters.startDestination
  | event => counters.add (outside.taken event)

/-- The counters after the events of a history, each booked as it happens. -/
def booked : Counters → Outside → List Event → Counters
  | counters, _, [] => counters
  | counters, outside, event :: events =>
    (counters.book outside event).booked (outside.next event) events

variable {before between after : Outside} {events later : List Event}

theorem booked_append (history : before.History events between) (later : List Event)
    (counters : Counters) :
    counters.booked before (events ++ later) = (counters.booked before events).booked between later := by
  induction history generalizing counters with
  | nil => rfl
  | cons first rest ih =>
    simp only [List.cons_append, booked, first.next_eq]
    exact ih _

theorem sum_taken {event : Event} (happens : before.Happens event between)
    (history : between.History events after) :
    ∑ number ∈ Finset.range (after.number + 1),
      (if event.target? = some number then before.taken event else 0) = before.taken event := by
  by_cases other : event.target? = some before.number
  · have within : before.number ∈ Finset.range (after.number + 1) := by
      have reached := Nat.le_trans happens.number_le history.number_le
      rw [Finset.mem_range]
      omega
    simp only [other, Option.some.injEq]
    rw [Finset.sum_ite_eq, if_pos within]
  · rw [happens.taken_eq_zero other]
    simp only [ite_self, Finset.sum_const_zero]

theorem total_booked (history : before.History events after) (counters : Counters) :
    (counters.booked before events).total =
      counters.total + ∑ number ∈ Finset.range (after.number + 1), before.intake number events := by
  induction history generalizing counters with
  | nil =>
    simp only [Outside.intake, Finset.sum_const_zero]
    rfl
  | @cons before between after event events first rest ih =>
    have entered : (counters.book before event).total = counters.total + before.taken event := by
      cases event <;> rfl
    calc
      (counters.booked before (event :: events)).total
        = (counters.book before event).total
          + ∑ number ∈ Finset.range (after.number + 1), between.intake number events := by
            rw [booked, first.next_eq, ih]
      _ = counters.total + (before.taken event
          + ∑ number ∈ Finset.range (after.number + 1), between.intake number events) := by
            rw [entered, Nat.add_assoc]
      _ = counters.total
          + ∑ number ∈ Finset.range (after.number + 1), before.intake number (event :: events) := by
            simp only [Outside.intake, first.next_eq, Finset.sum_add_distrib]
            rw [sum_taken first rest]

theorem current_booked (history : before.History events after) (counters : Counters) :
    (counters.booked before events).current =
      (if after.number = before.number then counters.current else 0)
        + before.intake after.number events := by
  induction history generalizing counters with
  | nil =>
    rw [if_pos rfl]
    rfl
  | @cons before between after event events first rest ih =>
    have onward := rest.number_le
    rw [booked, first.next_eq, ih, Outside.intake, first.next_eq]
    cases first with
    | write isOpen data =>
      simp only [book, add, Event.target?, Option.some.injEq]
      by_cases still : after.number = before.number
      · simp only [still, if_true, Nat.add_assoc]
      · simp only [if_neg still, if_neg (Ne.symm still), Nat.zero_add]
    | rewind isOpen =>
      simp only [book, add, Outside.taken, ite_self, Nat.add_zero, Nat.zero_add]
    | close isOpen =>
      simp only [book, add, Outside.taken, ite_self, Nat.add_zero, Nat.zero_add]
    | opened shut granted =>
      have past : after.number ≠ before.number := by
        simp only at onward
        omega
      simp only [book, startDestination, Event.target?, reduceCtorEq, if_false, if_neg past, ite_self,
        Nat.zero_add]
    | refused shut denied =>
      simp only [book, add, Outside.taken, ite_self, Nat.add_zero, Nat.zero_add]

end Counters

def books (state : Output × Medium) : Outside × Counters :=
  (outside state, state.1.counters)

structure Counted (before : Outside × Counters) (events : List Event)
    (after : Outside × Counters) : Prop where
  happened : before.1.History events after.1
  booked : after.2 = before.2.booked before.1 events

namespace Counted

variable {before between after : Outside × Counters} {events later : List Event}

theorem refl (books : Outside × Counters) : Counted books [] books :=
  ⟨.nil, rfl⟩

theorem trans (start : Counted before events between) (rest : Counted between later after) :
    Counted before (events ++ later) after where
  happened := start.happened.append rest.happened
  booked := by
    rw [rest.booked, start.booked, Counters.booked_append start.happened]

theorem single {outside next : Outside} {event : Event} (happens : outside.Happens event next)
    (counters : Counters) :
    Counted (outside, counters) [event] (next, counters.book outside event) :=
  ⟨happens.history, rfl⟩

theorem total_le (counted : Counted before events after) : before.2.total ≤ after.2.total := by
  rw [counted.booked, Counters.total_booked counted.happened]
  exact Nat.le_add_right ..

end Counted

namespace Writer

section

variable (number : Nat) (opener : Opener) (path : String)

def books (writer : Writer) : Outside × Counters :=
  (writer.outside number opener path, writer.counters)

variable {writer after : Writer}

theorem counted_wrap {result : Except IoError Unit} (wrapped : writer.wrap = (result, after)) :
    Counted (writer.books number opener path) (writer.wrapEvents number)
      (after.books number opener path) where
  happened := history_wrap number opener path wrapped
  booked := by
    rw [books, books, counters_of_wrap wrapped, wrapEvents]
    split <;> rfl

theorem counted_put {data : Bytes} {result : Except IoError Nat}
    (put : writer.put data = (result, after)) :
    Counted (writer.books number opener path) [.write number (writer.offer data)]
      (after.books number opener path) where
  happened := (happens_put number opener path put).history
  booked := by
    cases result with
    | error error =>
      obtain ⟨destination, storage, wrote, rfl⟩ := put_failed put
      simp only [books, outside, Counters.booked, Counters.book, Outside.taken, wrote]
      rfl
    | ok taken =>
      obtain ⟨destination, storage, wrote, rfl⟩ := put_taken put
      simp only [books, outside, Counters.booked, Counters.book, Outside.taken, wrote]

theorem counted_write (writer : Writer) (data : Bytes) :
    Counted (writer.books number opener path) (writer.events number data)
      ((writer.write data).2.books number opener path) := by
  fun_induction write writer data with
  | case1 writer =>
    rw [events, dif_pos rfl]
    exact .refl _
  | case2 writer data more error after wrapped =>
    rw [events, dif_neg more, wrapped, List.append_nil]
    exact counted_wrap number opener path wrapped
  | case3 writer data more _ after wrapped error last put =>
    rw [events, dif_neg more, wrapped]
    simp only [put]
    exact (counted_wrap number opener path wrapped).trans (counted_put number opener path put)
  | case4 writer data more _ after wrapped last put =>
    rw [events, dif_neg more, wrapped]
    simp only [put]
    exact (counted_wrap number opener path wrapped).trans (counted_put number opener path put)
  | case5 writer data more _ after wrapped taken wrote put error last again =>
    rw [events, dif_neg more, wrapped]
    simp only [put, again, List.append_nil]
    exact (counted_wrap number opener path wrapped).trans
      ((counted_put number opener path put).trans (counted_wrap number opener path again))
  | case6 writer data more _ after wrapped taken wrote put _ last again ih =>
    rw [events, dif_neg more, wrapped]
    simp only [put, again]
    exact (counted_wrap number opener path wrapped).trans
      ((counted_put number opener path put).trans
        ((counted_wrap number opener path again).trans ih))

end

end Writer

variable {output : Output} {medium : Medium}

theorem counted_writeOut (output : Output) (medium : Medium) (data : Bytes) :
    Counted (books (output, medium)) (output.writeEvents medium data)
      (books (output.writeOut medium data)) := by
  cases current : output.destination with
  | none =>
    simp only [writeEvents, writeOut, current]
    exact .refl _
  | some destination =>
    simp only [writeEvents, writeOut, books, outside, current]
    exact Writer.counted_write output.switches output.opener output.path
      ⟨output.ring, output.counters, destination, medium.storage⟩ data

theorem counted_flushAll (output : Output) (medium : Medium) :
    Counted (books (output, medium)) (output.writeEvents medium output.buffer.content)
      (books (output.flushAll medium)) :=
  counted_writeOut { output with buffer := output.buffer.clear } medium output.buffer.content

theorem counted_closeDestination (output : Output) (medium : Medium) :
    Counted (books (output, medium)) output.closeEvents
      (books (output.closeDestination medium)) where
  happened := history_closeDestination output medium
  booked := by
    unfold closeEvents closeDestination
    split <;> next current => simp only [current]; rfl

theorem counted_release (output : Output) (medium : Medium) (cut : Nat) :
    Counted (books (output, medium))
      (output.writeEvents medium (output.buffer.splitTo cut).1 ++ output.closeEvents)
      (books (output.release medium cut)) := by
  have wrote := counted_writeOut { output with buffer := (output.buffer.splitTo cut).2 } medium
    (output.buffer.splitTo cut).1
  have closed := counted_closeDestination
    ({ output with buffer := (output.buffer.splitTo cut).2 }.writeOut medium
      (output.buffer.splitTo cut).1).1
    ({ output with buffer := (output.buffer.splitTo cut).2 }.writeOut medium
      (output.buffer.splitTo cut).1).2
  rw [closeEvents_writeOut] at closed
  exact wrote.trans closed

theorem counted_moveAt (output : Output) (medium : Medium) (request : Request) (cut : Nat) :
    Counted (books (output, medium)) (output.moveEvents medium request cut)
      (books (output.moveAt medium request cut).2) := by
  have released := output.release_released medium cut
  have start := counted_release output medium cut
  obtain ⟨result, opener, storage, opened⟩ : ∃ result opener storage,
      (output.release medium cut).1.opener.openFile (output.release medium cut).2.storage
        request.name request.token = (result, opener, storage) := ⟨_, _, _, rfl⟩
  cases result with
  | error error =>
    have denied : (outside (output.release medium cut)).Happens
        (.refused request.name request.token) _ := .refused released.shut opened
    rw [moveAt_eq, moveEvents, opened]
    exact start.trans (.single denied _)
  | ok destination =>
    have granted : (outside (output.release medium cut)).Happens
        (.opened request.name request.token destination.path) _ := .opened released.shut opened
    have reopened := opened
    rw [released.opener] at reopened
    obtain ⟨moved, stored⟩ := moveAt_enter reopened
    have same : books (output.moveAt medium request cut).2 =
        books (((output.release medium cut).1.enter opener destination).flushAll
          { (output.release medium cut).2 with storage }) := by
      simp only [books, outside, moved, stored]
    rw [same, moveEvents, opened]
    exact start.trans ((Counted.single granted _).trans (counted_flushAll
      ((output.release medium cut).1.enter opener destination)
      { (output.release medium cut).2 with storage }))

theorem counted_tryCut (output : Output) (medium : Medium) (force : Bool) :
    Counted (books (output, medium)) (output.cutEvents medium force)
      (books (output.tryCut medium force).2) := by
  obtain ⟨nothing, idle⟩ | ⟨request, asking, -, rfl, ⟨cut, moves, moved⟩ | ⟨writes, flushed⟩⟩ :=
    output.tryCut_cases medium force
  · rw [nothing, idle]
    exact .refl _
  · rw [moves, moved]
    exact counted_moveAt { output with request := some (request.after output) } medium _ cut
  · rw [writes, flushed]
    exact counted_flushAll { output with request := some (request.after output) } medium

theorem counted_flush (output : Output) (medium : Medium) :
    Counted (books (output, medium)) (output.flushEvents medium) (books (output.flush medium)) := by
  unfold flushEvents flush
  split
  · exact counted_tryCut output medium false
  · exact counted_flushAll output medium

theorem counted_perform (operation : Operation) (state : Output × Medium) :
    Counted (books state) (operation.events state) (books (operation.perform state)) := by
  obtain ⟨output, medium⟩ := state
  cases operation with
  | append data =>
    unfold Operation.events Operation.perform append
    dsimp only
    split
    · exact counted_flush output medium
    · exact .refl _
  | flush => exact counted_flush output medium
  | startSwitch name token =>
    unfold Operation.events Operation.perform startSwitch
    dsimp only
    split
    · exact .refl _
    · exact counted_tryCut { output with request := some ⟨name, token, 0⟩ } medium false
  | forceSwitch => exact counted_tryCut output medium true
  | awaitSwitch =>
    unfold Operation.events Operation.perform awaitSwitch
    dsimp only
    split
    · exact .refl _
    · exact counted_tryCut output medium true
  | setPolicy kind family videoPid => exact .refl _
  | setRingLimit limit => exact .refl _
  | detach =>
    unfold Operation.events Operation.perform detach
    dsimp only
    split <;> exact .refl _

def finishEvents (output : Output) (medium : Medium) : List Event :=
  let forced := { output with closed := true }.forceSwitch medium
  let flushed := forced.1.flushAll forced.2
  { output with closed := true }.cutEvents medium true
    ++ forced.1.writeEvents forced.2 forced.1.buffer.content ++ flushed.1.closeEvents

theorem counted_finish (output : Output) (medium : Medium) :
    Counted (books (output, medium)) (output.finishEvents medium) (books (output.finish medium)) := by
  have forced := counted_tryCut { output with closed := true } medium true
  exact (forced.trans (counted_flushAll ..)).trans (counted_closeDestination ..)

/-- All that is asked of an output. Nothing keeps callers from asking on after the end. -/
inductive Call where
  | ask (operation : Operation)
  | finish

namespace Call

def perform : Call → Output × Medium → Output × Medium
  | ask operation, state => operation.perform state
  | finish, (output, medium) => output.finish medium

def events : Call → Output × Medium → List Event
  | ask operation, state => operation.events state
  | finish, (output, medium) => output.finishEvents medium

def after (calls : List Call) (state : Output × Medium) : Output × Medium :=
  calls.foldl (fun state call => call.perform state) state

def history : List Call → Output × Medium → List Event
  | [], _ => []
  | call :: rest, state => call.events state ++ history rest (call.perform state)

theorem counted_perform (call : Call) (state : Output × Medium) :
    Counted (books state) (call.events state) (books (call.perform state)) := by
  cases call with
  | ask operation => exact Output.counted_perform operation state
  | finish => exact counted_finish state.1 state.2

theorem counted_after (calls : List Call) (state : Output × Medium) :
    Counted (books state) (history calls state) (books (after calls state)) := by
  induction calls generalizing state with
  | nil => exact .refl _
  | cons call rest ih => exact (call.counted_perform state).trans (ih _)

end Call

/--
Whatever is asked of a recording, and whichever write calls take less, or fail, with whichever rewinds,
closings and openings: the total is what all destinations accepted, from the first to the last that was
opened; the current count is what the last one accepted; and the total never falls.
-/
theorem counters_exact {φ : Type} (setup : Session.Setup φ) (recording : Nat) (medium : Medium)
    (calls : List Call) :
    let start := (setup.newOutput recording, medium)
    let final := Call.after calls start
    let events := Call.history calls start
    (outside start).History events (outside final)
      ∧ final.1.switches = (served events).length
      ∧ final.1.counters.total =
          ∑ number ∈ Finset.range (final.1.switches + 1), (outside start).intake number events
      ∧ final.1.counters.current = (outside start).intake final.1.switches events
      ∧ ∀ earlier, earlier <+: calls →
          (Call.after earlier start).1.counters.total ≤ final.1.counters.total := by
  intro start final events
  obtain ⟨happened, booked⟩ := Call.counted_after calls start
  refine ⟨happened, ?_, ?_, ?_, ?_⟩
  · exact happened.number.trans (Nat.zero_add _)
  · show (books final).2.total = _
    rw [booked, Counters.total_booked happened]
    exact Nat.zero_add _
  · show (books final).2.current = _
    rw [booked, Counters.current_booked happened]
    change (if _ then 0 else 0) + _ = _
    rw [ite_self, Nat.zero_add]
    rfl
  · rintro earlier ⟨later, rfl⟩
    have onward := Call.counted_after later (Call.after earlier start)
    have last : Call.after later (Call.after earlier start) = final :=
      (List.foldl_append ..).symm
    rw [last] at onward
    exact onward.total_le

end MpegRecorder.Output
