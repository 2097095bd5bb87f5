import MpegRecorder.Proofs.Output.Accepted
import MpegRecorder.Proofs.Output.Move
import MpegRecorder.Proofs.Output.Operation

/-!
What an output does to the outside, call by call: to its destinations, which are numbered in the order in
which they were opened, and to its opener. The history of a run is what these calls make of the storage
and of the opener, one after the other.
-/

namespace MpegRecorder.Output

open Storage

inductive Event where
  | write (number : Nat) (data : Bytes)
  | rewind (number : Nat)
  | close (number : Nat)
  | opened (name : String) (token : UInt32) (path : String)
  | refused (name : String) (token : UInt32)
deriving DecidableEq

structure Outside where
  storage : Storage
  opener : Opener
  /-- The destination that is open. -/
  destination : Option Destination
  /-- The number of the destination that is open, or of the last one. -/
  number : Nat
  path : String

namespace Outside

/-- What each event is. Only the last destination can be open, and it is gone before the next one. -/
inductive Happens : (before : Outside) → Event → (after : Outside) → Prop where
  | write {outside : Outside} {destination : Destination}
      (isOpen : outside.destination = some destination) (data : Bytes) :
      Happens outside (.write outside.number data)
        { outside with
          storage := (outside.storage.write destination data).2.2
          destination := some (outside.storage.write destination data).2.1 }
  | rewind {outside : Outside} {destination : Destination}
      (isOpen : outside.destination = some destination) :
      Happens outside (.rewind outside.number)
        { outside with
          storage := (outside.storage.rewind destination).2.2
          destination := some (outside.storage.rewind destination).2.1 }
  | close {outside : Outside} {destination : Destination}
      (isOpen : outside.destination = some destination) :
      Happens outside (.close outside.number)
        { outside with storage := (outside.storage.close destination).2, destination := none }
  | opened {outside : Outside} {name : String} {token : UInt32} {destination : Destination}
      {opener : Opener} {storage : Storage} (shut : outside.destination = none)
      (granted : outside.opener.openFile outside.storage name token =
        (.ok destination, opener, storage)) :
      Happens outside (.opened name token destination.path)
        ⟨storage, opener, some destination, outside.number + 1, destination.path⟩
  | refused {outside : Outside} {name : String} {token : UInt32} {error : IoError}
      {opener : Opener} {storage : Storage} (shut : outside.destination = none)
      (denied : outside.opener.openFile outside.storage name token =
        (.error error, opener, storage)) :
      Happens outside (.refused name token) { outside with storage, opener }

inductive History : (before : Outside) → List Event → (after : Outside) → Prop where
  | nil {outside : Outside} : History outside [] outside
  | cons {before between after : Outside} {event : Event} {events : List Event}
      (first : Happens before event between) (rest : History between events after) :
      History before (event :: events) after

variable {before between after : Outside}

theorem Happens.history {event : Event} (happens : Happens before event after) :
    History before [event] after :=
  .cons happens .nil

theorem History.append {events later : List Event} (start : History before events between)
    (rest : History between later after) : History before (events ++ later) after := by
  induction start with
  | nil => exact rest
  | cons first _ ih => exact .cons first (ih rest)

theorem History.split {events later : List Event} (history : History before (events ++ later) after) :
    ∃ between, History before events between ∧ History between later after := by
  induction events generalizing before with
  | nil => exact ⟨before, .nil, history⟩
  | cons event events ih =>
    cases history with
    | cons first rest =>
      obtain ⟨between, start, last⟩ := ih rest
      exact ⟨between, .cons first start, last⟩

end Outside

def outside (state : Output × Medium) : Outside :=
  ⟨state.2.storage, state.1.opener, state.1.destination, state.1.switches, state.1.path⟩

namespace Writer

def wrapEvents (writer : Writer) (number : Nat) : List Event :=
  if writer.ring.isDue then [.rewind number] else []

/-- The calls that a writer makes for `data`, in the order of its write. -/
def events (number : Nat) (writer : Writer) (data : Bytes) : List Event :=
  if _more : data = [] then []
  else
    writer.wrapEvents number ++
      match writer.wrap with
      | (.error _, _) => []
      | (.ok _, writer) =>
        .write number (writer.offer data) ::
          match writer.put data with
          | (.error _, _) => []
          | (.ok 0, _) => []
          | (.ok (taken + 1), writer) =>
            writer.wrapEvents number ++
              match writer.wrap with
              | (.error _, _) => []
              | (.ok _, writer) => events number writer (data.drop (taken + 1))
termination_by data.length
decreasing_by
  have := List.length_pos_iff.mpr _more
  simp only [List.length_drop]
  omega

section

variable (number : Nat) (opener : Opener) (path : String)

def outside (writer : Writer) : Outside :=
  ⟨writer.storage, opener, some writer.destination, number, path⟩

variable {writer after : Writer}

theorem history_wrap {result : Except IoError Unit} (wrapped : writer.wrap = (result, after)) :
    (writer.outside number opener path).History (writer.wrapEvents number)
      (after.outside number opener path) := by
  have turned : (writer.outside number opener path).Happens (.rewind number) _ :=
    .rewind rfl
  unfold wrap at wrapped
  unfold wrapEvents
  split at wrapped
  · next due =>
    rw [if_pos due]
    split at wrapped <;> next rewound =>
      obtain ⟨-, rfl⟩ := Prod.mk.inj wrapped
      simp only [outside, rewound] at turned
      exact turned.history
  · next early =>
    rw [if_neg early]
    obtain ⟨-, rfl⟩ := Prod.mk.inj wrapped
    exact .nil

theorem happens_put {data : Bytes} {result : Except IoError Nat}
    (put : writer.put data = (result, after)) :
    (writer.outside number opener path).Happens (.write number (writer.offer data))
      (after.outside number opener path) := by
  have given : (writer.outside number opener path).Happens (.write number (writer.offer data)) _ :=
    .write rfl _
  cases result with
  | error error =>
    obtain ⟨destination, storage, wrote, rfl⟩ := put_failed put
    simp only [outside, wrote] at given
    exact given
  | ok taken =>
    obtain ⟨destination, storage, wrote, rfl⟩ := put_taken put
    simp only [outside, wrote] at given
    exact given

theorem history_write (writer : Writer) (data : Bytes) :
    (writer.outside number opener path).History (writer.events number data)
      ((writer.write data).2.outside number opener path) := by
  fun_induction write writer data with
  | case1 writer =>
    rw [events, dif_pos rfl]
    exact .nil
  | case2 writer data more error after wrapped =>
    rw [events, dif_neg more, wrapped, List.append_nil]
    exact history_wrap number opener path wrapped
  | case3 writer data more _ after wrapped error last put =>
    rw [events, dif_neg more, wrapped]
    simp only [put]
    exact (history_wrap number opener path wrapped).append (happens_put number opener path put).history
  | case4 writer data more _ after wrapped last put =>
    rw [events, dif_neg more, wrapped]
    simp only [put]
    exact (history_wrap number opener path wrapped).append (happens_put number opener path put).history
  | case5 writer data more _ after wrapped taken wrote put error last again =>
    rw [events, dif_neg more, wrapped]
    simp only [put, again, List.append_nil]
    exact (history_wrap number opener path wrapped).append
      (.cons (happens_put number opener path put) (history_wrap number opener path again))
  | case6 writer data more _ after wrapped taken wrote put _ last again ih =>
    rw [events, dif_neg more, wrapped]
    simp only [put, again]
    exact (history_wrap number opener path wrapped).append
      (.cons (happens_put number opener path put)
        ((history_wrap number opener path again).append ih))

end

end Writer

section Events

variable (output : Output) (medium : Medium)

def writeEvents (data : Bytes) : List Event :=
  match output.destination with
  | none => []
  | some destination =>
    Writer.events output.switches ⟨output.ring, output.counters, destination, medium.storage⟩ data

def closeEvents : List Event :=
  if output.destination.isSome then [.close output.switches] else []

def moveEvents (request : Request) (cut : Nat) : List Event :=
  let released := output.release medium cut
  output.writeEvents medium (output.buffer.splitTo cut).1 ++ output.closeEvents ++
    match released.1.opener.openFile released.2.storage request.name request.token with
    | (.error _, _, _) => [.refused request.name request.token]
    | (.ok destination, opener, storage) =>
      .opened request.name request.token destination.path ::
        (released.1.enter opener destination).writeEvents { released.2 with storage }
          released.1.buffer.content

def cutEvents (force : Bool) : List Event :=
  match output.request with
  | none => []
  | some request =>
    if output.buffer.content.isEmpty && !force then []
    else
      let asking := { output with request := some (request.after output) }
      match output.policy.findCut output.buffer.content with
      | some cut => asking.moveEvents medium (request.after output) cut
      | none =>
        if force || output.scanLimit < (request.after output).scanned then
          asking.moveEvents medium (request.after output) 0
        else asking.writeEvents medium output.buffer.content

def flushEvents : List Event :=
  if output.request.isSome then output.cutEvents medium false
  else output.writeEvents medium output.buffer.content

end Events

namespace Operation

def events : Operation → Output × Medium → List Event
  | append data, (output, medium) =>
    if output.buffer.remaining < data.length then output.flushEvents medium else []
  | flush, (output, medium) => output.flushEvents medium
  | startSwitch name token, (output, medium) =>
    if output.closed || output.request.isSome || output.path == name then []
    else { output with request := some ⟨name, token, 0⟩ }.cutEvents medium false
  | forceSwitch, (output, medium) => output.cutEvents medium true
  | awaitSwitch, (output, medium) => if output.closed then [] else output.cutEvents medium true
  | setPolicy .., _ | setRingLimit _, _ | detach, _ => []

def accepted : Operation → Output × Medium → List (String × UInt32)
  | startSwitch name token, (output, medium) =>
    if (output.startSwitch medium name token).1 then [(name, token)] else []
  | _, _ => []

end Operation

def along {α : Type} (read : Operation → Output × Medium → List α) :
    List Operation → Output × Medium → List α
  | [], _ => []
  | operation :: rest, state => read operation state ++ along read rest (operation.perform state)

variable {output : Output} {medium : Medium}

theorem history_writeOut (output : Output) (medium : Medium) (data : Bytes) :
    (outside (output, medium)).History (output.writeEvents medium data)
      (outside (output.writeOut medium data)) := by
  cases current : output.destination with
  | none =>
    simp only [writeEvents, writeOut, current]
    exact .nil
  | some destination =>
    simp only [writeEvents, writeOut, outside, current]
    exact Writer.history_write output.switches output.opener output.path
      ⟨output.ring, output.counters, destination, medium.storage⟩ data

theorem history_flushAll (output : Output) (medium : Medium) :
    (outside (output, medium)).History (output.writeEvents medium output.buffer.content)
      (outside (output.flushAll medium)) :=
  history_writeOut { output with buffer := output.buffer.clear } medium output.buffer.content

theorem history_closeDestination (output : Output) (medium : Medium) :
    (outside (output, medium)).History output.closeEvents (outside (output.closeDestination medium)) := by
  cases current : output.destination with
  | none =>
    simp only [closeEvents, closeDestination, current]
    exact .nil
  | some destination =>
    have shuts : (outside (output, medium)).Happens (.close output.switches) _ := .close current
    simp only [closeEvents, closeDestination, current]
    exact shuts.history

theorem closeEvents_writeOut (output : Output) (medium : Medium) (data : Bytes) :
    (output.writeOut medium data).1.closeEvents = output.closeEvents := by
  cases current : output.destination with
  | none => simp only [writeOut, current]
  | some destination => simp only [closeEvents, writeOut, current, Option.isSome_some]

theorem history_release (output : Output) (medium : Medium) (cut : Nat) :
    (outside (output, medium)).History
      (output.writeEvents medium (output.buffer.splitTo cut).1 ++ output.closeEvents)
      (outside (output.release medium cut)) := by
  have wrote := history_writeOut { output with buffer := (output.buffer.splitTo cut).2 } medium
    (output.buffer.splitTo cut).1
  have closed := history_closeDestination
    ({ output with buffer := (output.buffer.splitTo cut).2 }.writeOut medium
      (output.buffer.splitTo cut).1).1
    ({ output with buffer := (output.buffer.splitTo cut).2 }.writeOut medium
      (output.buffer.splitTo cut).1).2
  rw [closeEvents_writeOut] at closed
  exact wrote.append closed

/-- What a search comes to, with the calls that it makes: nothing, a move, or that all that waits is written. -/
theorem tryCut_cases (output : Output) (medium : Medium) (force : Bool) :
    output.cutEvents medium force = [] ∧ output.tryCut medium force = (false, output, medium)
      ∨ ∃ request asking, output.request = some request
        ∧ asking = { output with request := some (request.after output) }
        ∧ ((∃ cut, output.cutEvents medium force = asking.moveEvents medium (request.after output) cut
            ∧ output.tryCut medium force = asking.moveAt medium (request.after output) cut)
          ∨ output.cutEvents medium force = asking.writeEvents medium asking.buffer.content
            ∧ output.tryCut medium force = (false, asking.flushAll medium)) := by
  cases waits : output.request with
  | none =>
    refine .inl ⟨?_, tryCut_of_idle waits medium force⟩
    simp only [cutEvents, waits]
  | some request =>
    simp only [cutEvents, waits]
    by_cases nothing : (output.buffer.content.isEmpty && !force) = true
    · refine .inl ⟨if_pos nothing, ?_⟩
      simp only [tryCut, waits, nothing, if_true]
    · have filled : output.buffer.content ≠ [] ∨ force = true := by
        simpa [Decidable.or_iff_not_imp_left] using nothing
      refine .inr ⟨request, _, rfl, rfl, ?_⟩
      rw [if_neg nothing]
      cases found : output.policy.findCut output.buffer.content with
      | some cut => exact .inl ⟨cut, rfl, tryCut_of_found waits filled found medium⟩
      | none =>
        by_cases gives : (force || decide (output.scanLimit < (request.after output).scanned)) = true
        · refine .inl ⟨0, if_pos gives, ?_⟩
          exact tryCut_of_given_up waits filled found (by simpa using gives) medium
        · obtain ⟨unforced, under⟩ :
              force = false ∧ ¬ output.scanLimit < (request.after output).scanned := by
            simpa using gives
          refine .inr ⟨if_neg gives, ?_⟩
          rw [unforced] at filled ⊢
          exact tryCut_of_missing waits (filled.resolve_right Bool.false_ne_true) found under medium

end MpegRecorder.Output
