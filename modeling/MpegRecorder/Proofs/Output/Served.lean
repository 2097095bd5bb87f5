import MpegRecorder.Proofs.Output.History
import MpegRecorder.Session.Basic

/-!
The service of requests to move. Each request that is accepted is the next to be opened, and waits until
then; before a destination is opened the one before it is closed, once, and left alone from then on.
-/

namespace MpegRecorder.Output

open Storage

namespace Event

def served? : Event → Option (String × UInt32)
  | opened name token _ => some (name, token)
  | _ => none

def path? : Event → Option String
  | opened _ _ path => some path
  | _ => none

def target? : Event → Option Nat
  | write number _ | rewind number | close number => some number
  | opened .. | refused .. => none

end Event

def served (events : List Event) : List (String × UInt32) :=
  events.filterMap Event.served?

theorem served_append (events later : List Event) :
    served (events ++ later) = served events ++ served later :=
  List.filterMap_append

def IsOpen (events : List Event) (number : Nat) : Prop :=
  number ≤ (served events).length ∧ .close number ∉ events

/-- Destinations are open one at a time, closed once each, and left alone from then on. -/
structure Orderly (events : List Event) : Prop where
  single : ∀ earlier, earlier <+: events → ∀ first second,
    IsOpen earlier first → IsOpen earlier second → first = second
  once : ∀ earlier, earlier <+: events → ∀ number, number < (served earlier).length →
    earlier.count (.close number) = 1
  silent : ∀ earlier number later, events = earlier ++ .close number :: later →
    ∀ event ∈ later, event.target? ≠ some number

namespace Outside

variable {before after : Outside} {events : List Event}

theorem Happens.number {event : Event} (happens : Happens before event after) :
    after.number = before.number + (served [event]).length := by
  cases happens <;> rfl

theorem History.number (history : History before events after) :
    after.number = before.number + (served events).length := by
  induction history with
  | nil => rfl
  | @cons _ _ _ event events first rest ih =>
    rw [← List.singleton_append, served_append, List.length_append, ih, first.number, Nat.add_assoc]

/-- What was closed after a history that began with an open destination of number zero. -/
def Tally (events : List Event) (outside : Outside) : Prop :=
  ∀ number, events.count (.close number) =
    if number < outside.number ∨ number = outside.number ∧ outside.destination = none then 1 else 0

theorem Tally.start (zero : before.number = 0) (isOpen : before.destination.isSome) :
    Tally [] before := by
  intro number
  have here : before.destination ≠ none := Option.isSome_iff_ne_none.mp isOpen
  simp [zero, here]

theorem Tally.next (tally : Tally events before) {event : Event}
    (happens : Happens before event after) : Tally (events ++ [event]) after := by
  intro number
  rw [List.count_append, List.count_singleton, tally number]
  cases happens with
  | write isOpen data => simp [isOpen]
  | rewind isOpen => simp [isOpen]
  | close isOpen =>
    simp only [isOpen, beq_iff_eq, Event.close.injEq, reduceCtorEq, and_false, or_false, and_true]
    split <;> split <;> split <;> omega
  | opened shut granted =>
    simp only [shut, beq_iff_eq, reduceCtorEq, if_false, and_true, and_false, or_false, Nat.add_zero]
    split <;> split <;> omega
  | refused shut denied => simp

theorem Tally.run {earlier : List Event} (tally : Tally earlier before)
    (history : History before events after) : Tally (earlier ++ events) after := by
  induction history generalizing earlier with
  | nil =>
    rw [List.append_nil]
    exact tally
  | cons first rest ih =>
    rw [List.append_cons]
    exact ih (tally.next first)

theorem History.orderly (history : History before events after) (zero : before.number = 0)
    (isOpen : before.destination.isSome) : Orderly events := by
  have tallied {earlier : List Event} {between : Outside} (start : History before earlier between) :
      Tally earlier between ∧ between.number = (served earlier).length := by
    refine ⟨(Tally.start zero isOpen).run start, ?_⟩
    rw [start.number, zero, Nat.zero_add]
  refine ⟨?_, ?_, ?_⟩
  · rintro earlier ⟨later, rfl⟩ first second left right
    obtain ⟨between, start, -⟩ := history.split
    obtain ⟨tally, opened⟩ := tallied start
    -- Only the last destination is not closed yet.
    have last (number : Nat) (there : IsOpen earlier number) : number = between.number := by
      have unclosed := List.count_eq_zero.mpr there.2
      have within : number ≤ between.number := opened ▸ there.1
      rw [tally] at unclosed
      split at unclosed
      · cases unclosed
      · omega
    rw [last first left, last second right]
  · rintro earlier ⟨later, rfl⟩ number below
    obtain ⟨between, start, -⟩ := history.split
    obtain ⟨tally, opened⟩ := tallied start
    rw [← opened] at below
    rw [tally, if_pos (.inl below)]
  · rintro earlier number later rfl event member same
    obtain ⟨front, rest, rfl⟩ := List.append_of_mem member
    rw [List.append_cons, ← List.append_assoc] at history
    obtain ⟨between, start, others⟩ := history.split
    have closed : .close number ∈ earlier ++ [.close number] ++ front := by simp
    have once := List.count_pos_iff.mpr closed
    have current : number = between.number ∧ between.destination ≠ none := by
      cases others with
      | cons first _ =>
        cases first with
        | write isOpen _ | rewind isOpen | close isOpen =>
          refine ⟨(Option.some.inj same).symm, ?_⟩
          rw [isOpen]
          exact Option.some_ne_none _
        | opened | refused => cases same
    have unclosed :
        ¬ (number < between.number ∨ number = between.number ∧ between.destination = none) := by
      rintro (below | ⟨-, shut⟩)
      · exact Nat.lt_irrefl _ (current.1 ▸ below)
      · exact current.2 shut
    rw [(tallied start).1, if_neg unclosed] at once
    exact Nat.lt_irrefl 0 once

theorem History.path (history : History before events after) :
    after.path = ((events.filterMap Event.path?).getLast?).getD before.path := by
  induction history with
  | nil => rfl
  | cons first rest ih =>
    rw [ih]
    cases first <;> simp [Event.path?, List.getLast?_cons]

end Outside

def outstanding (output : Output) : List (String × UInt32) :=
  (output.request.map fun request => (request.name, request.token)).toList

/-- Without a destination a request waits, and the opener was last asked for it, in vain. -/
def Waits (output : Output) (last : Option Event) : Prop :=
  output.destination = none →
    ∃ name token, output.outstanding = [(name, token)] ∧ last = some (.refused name token)

structure Served (before : Output × Medium) (asked : List (String × UInt32)) (events : List Event)
    (after : Output × Medium) : Prop where
  happened : (outside before).History events (outside after)
  settled : before.1.outstanding ++ asked = served events ++ after.1.outstanding
  waits : ∀ last, before.1.Waits last → after.1.Waits (events.getLast?.or last)

namespace Served

variable {before between after : Output × Medium} {output : Output} {medium : Medium}

theorem quiet (same : outside after = outside before)
    (still : after.1.outstanding = before.1.outstanding) : Served before [] [] after where
  happened := by
    rw [same]
    exact .nil
  settled := by
    rw [List.append_nil, still]
    rfl
  waits last holds shut := by
    rw [still]
    exact holds ((congrArg Outside.destination same).symm.trans shut)

theorem refl (state : Output × Medium) : Served state [] [] state :=
  .quiet rfl rfl

theorem trans {asked more : List (String × UInt32)} {events later : List Event}
    (start : Served before asked events between) (rest : Served between more later after) :
    Served before (asked ++ more) (events ++ later) after where
  happened := start.happened.append rest.happened
  settled := by
    rw [← List.append_assoc, start.settled, List.append_assoc, rest.settled, served_append,
      List.append_assoc]
  waits last holds := by
    rw [List.getLast?_append, Option.or_assoc]
    exact rest.waits _ (start.waits last holds)

end Served

variable {output : Output} {medium : Medium}

theorem served_writeEvents (output : Output) (medium : Medium) (data : Bytes) :
    served (output.writeEvents medium data) = [] := by
  have same : (output.writeOut medium data).1.switches = output.switches := by
    unfold writeOut
    split <;> rfl
  have count : (output.writeOut medium data).1.switches =
      output.switches + (served (output.writeEvents medium data)).length :=
    (history_writeOut output medium data).number
  rw [same] at count
  exact List.length_eq_zero_iff.mp (by omega)

theorem served_closeEvents (output : Output) : served output.closeEvents = [] := by
  unfold closeEvents
  split <;> rfl

theorem served_flushAll (output : Output) (medium : Medium) :
    Served (output, medium) [] (output.writeEvents medium output.buffer.content)
      (output.flushAll medium) where
  happened := history_flushAll output medium
  settled := by
    rw [served_writeEvents, List.append_nil, List.nil_append]
    unfold flushAll writeOut
    split <;> rfl
  waits last holds := by
    cases current : output.destination with
    | none =>
      have nothing : output.writeEvents medium output.buffer.content = [] := by
        simp only [writeEvents, current]
      have same : output.flushAll medium = ({ output with buffer := output.buffer.clear }, medium) := by
        simp only [flushAll, writeOut, current]
      rw [nothing, same]
      exact holds
    | some destination =>
      intro shut
      simp only [flushAll, writeOut, current] at shut
      cases shut

theorem outstanding_of_waits {request : Request} (waits : output.request = some request) :
    output.outstanding = [(request.name, request.token)] := by
  rw [outstanding, waits]
  rfl

theorem outstanding_of_idle (idle : output.request = none) : output.outstanding = [] := by
  rw [outstanding, idle]
  rfl

theorem served_moveAt {request : Request} (waits : output.request = some request) (medium : Medium)
    (cut : Nat) :
    Served (output, medium) [] (output.moveEvents medium request cut)
      (output.moveAt medium request cut).2 := by
  have released := output.release_released medium cut
  have start := history_release output medium cut
  obtain ⟨result, opener, storage, opened⟩ : ∃ result opener storage,
      (output.release medium cut).1.opener.openFile (output.release medium cut).2.storage
        request.name request.token = (result, opener, storage) := ⟨_, _, _, rfl⟩
  cases result with
  | error error =>
    have denied : (outside (output.release medium cut)).Happens
        (.refused request.name request.token) _ := .refused released.shut opened
    have still : (output.moveAt medium request cut).2.1.outstanding =
        [(request.name, request.token)] := by
      rw [moveAt_eq, opened]
      exact outstanding_of_waits (released.request.trans waits)
    refine ⟨?_, ?_, fun last _ _ => ⟨request.name, request.token, still, ?_⟩⟩
    · rw [moveAt_eq, moveEvents, opened]
      exact start.append denied.history
    · rw [still, outstanding_of_waits waits, moveEvents, opened, served_append, served_append,
        served_writeEvents, served_closeEvents]
      rfl
    · rw [moveEvents, opened, List.getLast?_concat, Option.some_or]
  | ok destination =>
    have granted : (outside (output.release medium cut)).Happens
        (.opened request.name request.token destination.path) _ := .opened released.shut opened
    have reopened := opened
    rw [released.opener] at reopened
    obtain ⟨moved, stored⟩ := moveAt_enter reopened
    obtain ⟨⟨isOpen, idle⟩, -, -⟩ := moveAt_opened reopened
    refine ⟨?_, ?_, fun last _ shut => ?_⟩
    · have same : outside (output.moveAt medium request cut).2 =
          outside (((output.release medium cut).1.enter opener destination).flushAll
            { (output.release medium cut).2 with storage }) := by
        simp only [outside, moved, stored]
      rw [same, moveEvents, opened]
      exact start.append (.cons granted (history_flushAll
        ((output.release medium cut).1.enter opener destination)
        { (output.release medium cut).2 with storage }))
    · rw [outstanding_of_waits waits, outstanding_of_idle idle, moveEvents, opened, served_append,
        served_append, served_writeEvents, served_closeEvents]
      change _ = [(request.name, request.token)] ++ served (writeEvents ..) ++ []
      rw [served_writeEvents]
      rfl
    · rw [shut] at isOpen
      cases isOpen

theorem served_tryCut (output : Output) (medium : Medium) (force : Bool) :
    Served (output, medium) [] (output.cutEvents medium force) (output.tryCut medium force).2 := by
  obtain ⟨nothing, idle⟩ | ⟨request, asking, waits, rfl, searched⟩ :=
    output.tryCut_cases medium force
  · rw [nothing, idle]
    exact .refl _
  · have asks : Served (output, medium) [] []
        ({ output with request := some (request.after output) }, medium) := by
      refine .quiet rfl ?_
      rw [outstanding_of_waits waits, outstanding_of_waits rfl]
      rfl
    obtain ⟨cut, moves, moved⟩ | ⟨writes, flushed⟩ := searched
    · rw [moves, moved]
      exact asks.trans (served_moveAt rfl medium cut)
    · rw [writes, flushed]
      exact asks.trans (served_flushAll _ medium)

theorem served_flush (output : Output) (medium : Medium) :
    Served (output, medium) [] (output.flushEvents medium) (output.flush medium) := by
  unfold flushEvents flush
  split
  · exact served_tryCut output medium false
  · exact served_flushAll output medium

theorem served_append_data (output : Output) (medium : Medium) (data : Bytes) :
    Served (output, medium) []
      (if output.buffer.remaining < data.length then output.flushEvents medium else [])
      (output.append medium data) := by
  by_cases full : output.buffer.remaining < data.length
  · rw [if_pos full, append_of_full full]
    have fills : Served (output.flush medium) [] []
        ({ (output.flush medium).1 with
          buffer := ((output.flush medium).1.buffer.makeRoom data.length).extend data },
          (output.flush medium).2) :=
      .quiet rfl rfl
    rw [← List.append_nil (output.flushEvents medium)]
    exact (served_flush output medium).trans fills
  · rw [if_neg full, append_of_room full]
    exact .quiet rfl rfl

theorem served_asking (idle : output.request = none) (medium : Medium) (name : String)
    (token : UInt32) :
    Served (output, medium) [(name, token)] []
      ({ output with request := some ⟨name, token, 0⟩ }, medium) where
  happened := .nil
  settled := by
    rw [outstanding_of_idle idle, outstanding_of_waits rfl]
    rfl
  waits last holds shut := by
    obtain ⟨_, _, waiting, -⟩ := holds shut
    rw [outstanding_of_idle idle] at waiting
    cases waiting

theorem served_perform (operation : Operation) (state : Output × Medium) :
    Served state (operation.accepted state) (operation.events state) (operation.perform state) := by
  obtain ⟨output, medium⟩ := state
  cases operation with
  | append data => exact served_append_data output medium data
  | flush => exact served_flush output medium
  | startSwitch name token =>
    by_cases refuses : (output.closed || output.request.isSome || output.path == name) = true
    · simp only [Operation.accepted, Operation.events, Operation.perform, startSwitch, refuses, if_true]
      exact .refl _
    · have idle : output.request = none := by
        simp only [Bool.or_eq_true, not_or] at refuses
        exact Option.not_isSome_iff_eq_none.mp refuses.1.2
      simp only [Operation.accepted, Operation.events, Operation.perform, startSwitch, refuses,
        Bool.false_eq_true, if_false, if_true]
      exact (served_asking idle medium name token).trans (served_tryCut _ medium false)
  | forceSwitch => exact served_tryCut output medium true
  | awaitSwitch =>
    simp only [Operation.accepted, Operation.events, Operation.perform, awaitSwitch]
    split
    · exact .refl _
    · exact served_tryCut output medium true
  | setPolicy kind family videoPid => exact .quiet rfl rfl
  | setRingLimit limit => exact .quiet rfl rfl
  | detach =>
    simp only [Operation.accepted, Operation.events, Operation.perform, detach]
    split
    · exact .quiet rfl rfl
    · exact .refl _

theorem served_run (operations : List Operation) (state : Output × Medium) :
    Served state (along Operation.accepted operations state) (along Operation.events operations state)
      (run operations state) := by
  induction operations generalizing state with
  | nil => exact .refl state
  | cons operation rest ih => exact (served_perform operation state).trans (ih _)

/--
The requests that a recording accepts are served once each and in order, but for the one that waits. It
counts them, and its path is the one of its last destination. It is without a destination only while the
opener has last refused the request that waits, and otherwise its destinations are open one at a time.
-/
theorem requests_served {φ : Type} (setup : Session.Setup φ) (recording : Nat) (medium : Medium)
    (operations : List Operation) :
    let start := (setup.newOutput recording, medium)
    let final := run operations start
    let events := along Operation.events operations start
    (outside start).History events (outside final)
      ∧ along Operation.accepted operations start = served events ++ final.1.outstanding
      ∧ final.1.outstanding.length ≤ 1
      ∧ final.1.switches = (served events).length
      ∧ final.1.path = (events.filterMap Event.path?).getLast?.getD setup.destination.path
      ∧ final.1.Waits events.getLast?
      ∧ Orderly events := by
  intro start final events
  obtain ⟨happened, settled, waits⟩ := served_run operations start
  have last := waits none nofun
  rw [Option.or_none] at last
  refine ⟨happened, settled, ?_, ?_, happened.path, last, happened.orderly rfl rfl⟩
  · rw [outstanding, Option.length_toList]
    split <;> decide
  · exact happened.number.trans (Nat.zero_add _)

end MpegRecorder.Output
