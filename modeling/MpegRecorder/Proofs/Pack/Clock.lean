import MpegRecorder.Proofs.Pack.Streams

/-!
The clock that packs announce. It is the latest of what two sources ask for: the clock references of the
programs and, until there is one, the times of the units that leave. No source exceeds 33 bits, so a pack header
keeps the clock as it is, and nothing takes it back.
-/

namespace MpegRecorder

namespace Elementary

namespace Pes.Header

variable {header : Header} {time : Nat}

end Pes.Header

end Elementary

namespace Pack

open Elementary Transport

inductive Event where
  /-- A clock reference comes in on the packet identifier that the program in force has for them. -/
  | reference (base : Nat)
  /-- The data of a unit leaves, whether or not it has a header. -/
  | unit (data : Bytes)
  | ended

namespace Event

def base? : Event → Option Nat
  | .reference base => some base
  | .unit _ | .ended => none

/-- The time that a unit with a header asks for: ahead of when it is decoded, or else presented. -/
def time? : Event → Option Nat
  | .unit data =>
    (Pes.Header.parse data).toOption.bind fun header =>
      (header.decoding <|> header.presentation).map (· - clockLead)
  | .reference _ | .ended => none

theorem time?_unit {data : Bytes} {header : Pes.Header} (parsed : Pes.Header.parse data = .ok header) :
    (unit data).time? = (header.decoding <|> header.presentation).map (· - clockLead) := by
  simp only [time?, parsed, Except.toOption, Option.bind_some]

end Event

def latest (times : List Nat) : Nat :=
  times.foldr max 0

def timesUnreferenced : List Event → List Nat
  | [] | .reference _ :: _ => []
  | .unit data :: later => (Event.unit data).time?.toList ++ timesUnreferenced later
  | .ended :: later => timesUnreferenced later

def due (past : List Event) : Nat :=
  latest (past.filterMap Event.base? ++ timesUnreferenced past)

def referenced (past : List Event) : Bool :=
  past.any fun event => event.base?.isSome

theorem latest_append (first second : List Nat) :
    latest (first ++ second) = max (latest first) (latest second) := by
  induction first with
  | nil => exact (Nat.zero_max _).symm
  | cons time later ih =>
    change max time (latest (later ++ second)) = max (max time (latest later)) (latest second)
    rw [ih, Nat.max_assoc]

theorem latest_toList (time : Option Nat) : latest time.toList = time.getD 0 := by
  cases time with
  | none => rfl
  | some time => exact Nat.max_zero time

theorem timesUnreferenced_concat (past : List Event) (event : Event) :
    timesUnreferenced (past ++ [event]) =
      timesUnreferenced past ++ (if referenced past then [] else event.time?.toList) := by
  induction past with
  | nil =>
    cases event with
    | reference base => rfl
    | unit data => exact List.append_nil _
    | ended => rfl
  | cons first later ih =>
    cases first with
    | reference base => rfl
    | unit data =>
      rw [List.cons_append, timesUnreferenced, timesUnreferenced, ih, List.append_assoc]
      rfl
    | ended =>
      rw [List.cons_append, timesUnreferenced, timesUnreferenced, ih]
      rfl

/-- An event leaves the clock where it is, unless it asks for a later time. -/
theorem due_concat (past : List Event) (event : Event) :
    due (past ++ [event]) =
      max (due past) (max (event.base?.getD 0) (if referenced past then 0 else event.time?.getD 0)) := by
  have own : latest (if referenced past then [] else event.time?.toList) =
      if referenced past then 0 else event.time?.getD 0 := by
    split
    · rfl
    · exact latest_toList _
  have base : (past ++ [event]).filterMap Event.base? = past.filterMap Event.base? ++ event.base?.toList := by
    rw [List.filterMap_append, List.filterMap_cons, List.filterMap_nil]
    cases event.base? <;> rfl
  simp only [due, base, timesUnreferenced_concat, latest_append, latest_toList, own]
  omega

/-- Behind a reference, units have nothing to say about the clock; what they said before stays. -/
example :
    let unit (time : Nat) : Bytes :=
      Pes.fixedPart 0xE0 0 ++ [0x80, 0x80, 5] ++ Timestamp.write 2 time
    due [.unit (unit 18000)] = 9000 ∧
      due [.unit (unit 18000), .reference 100, .unit (unit 90000)] = 9000 ∧
      due [.unit (unit 18000), .reference 9500, .unit [7], .ended] = 9500 := by
  decide

def clock? (piece : Bytes) : Option Nat :=
  (Header.parse piece).toOption.map Header.clockBase

inductive Written (clock : Nat) : Event → List Bytes → Prop where
  | reference {base : Nat} : Written clock (.reference base) []
  | packs {data : Bytes} {header : Pes.Header} {packs : List Bytes} (carries : Carries data header packs)
      (announce : ∀ pack ∈ packs, clock? pack = some clock) : Written clock (.unit data) packs
  | dropped {data : Bytes} {error : Malformed} (refused : Pes.Header.parse data = .error error) :
      Written clock (.unit data) []
  | ended : Written clock .ended [endCode]

/-- What a row of events adds to the output, event by event, each at the clock that is due with it. -/
inductive Timeline : (past events : List Event) → (rows : List (List Bytes)) → Prop where
  | nil {past : List Event} : Timeline past [] []
  | cons {past events : List Event} {event : Event} {row : List Bytes} {rows : List (List Bytes)}
      (written : Written (due (past ++ [event])) event row) (later : Timeline (past ++ [event]) events rows) :
      Timeline past (event :: events) (row :: rows)

theorem Timeline.append {past events more : List Event} {rows others : List (List Bytes)}
    (first : Timeline past events rows) (second : Timeline (past ++ events) more others) :
    Timeline past (events ++ more) (rows ++ others) := by
  induction first with
  | nil =>
    rw [List.append_nil] at second
    exact second
  | cons written later ih =>
    rw [List.append_cons] at second
    exact .cons written (ih second)

namespace Muxer

structure Timed (past : List Event) (muxer : Muxer) : Prop where
  clock : muxer.clock = due past
  seen : muxer.clockSeen = referenced past
  bounded : due past < 2 ^ 33

def Keeps (past events : List Event) (result : Bytes × Muxer) : Prop :=
  ∃ rows, result.1 = rows.flatten.flatten ∧ Timeline past events rows ∧ Timed (past ++ events) result.2

variable {muxer : Muxer} {past : List Event}

theorem Timed.congr (timed : Timed past muxer) {other : Muxer} (clock : other.clock = muxer.clock)
    (seen : other.clockSeen = muxer.clockSeen) : Timed past other :=
  ⟨clock.trans timed.clock, seen.trans timed.seen, timed.bounded⟩

theorem Keeps.trans {events more : List Event} {output rest : Bytes} {next last : Muxer}
    (first : Keeps past events (output, next))
    (second : Timed (past ++ events) next → Keeps (past ++ events) more (rest, last)) :
    Keeps past (events ++ more) (output ++ rest, last) := by
  obtain ⟨rows, spelled, timeline, timed⟩ := first
  obtain ⟨others, written, later, still⟩ := second timed
  refine ⟨rows ++ others, ?_, timeline.append later, ?_⟩
  · dsimp only at spelled written ⊢
    rw [spelled, written, List.flatten_append, List.flatten_append]
  · rw [← List.append_assoc]
    exact still

theorem Timed.clockAt (timed : Timed past muxer) {data : Bytes} {header : Pes.Header}
    (parsed : Pes.Header.parse data = .ok header) :
    muxer.clockAt header = due (past ++ [.unit data]) := by
  rw [due_concat, Event.time?_unit parsed, Muxer.clockAt, timed.seen, timed.clock, Event.base?, Option.getD_none,
    Nat.zero_max]
  cases referenced past with
  | true => rw [if_pos rfl, if_pos rfl, Nat.max_zero]
  | false =>
    rw [if_neg Bool.false_ne_true, if_neg Bool.false_ne_true]
    cases header.decoding <|> header.presentation with
    | none => exact (Nat.max_zero _).symm
    | some time => rw [Option.map_some, Option.getD_some]

def referenceEvents (muxer : Muxer) (packet : Packet) : List Event :=
  if muxer.clockPid = some packet.pid then packet.clockBase.toList.map .reference else []

def pendingEvents (data : Packed) : List Event :=
  if data.isEmpty then [] else [.unit data.toList]

def payloadEvents (assembly : Assembly) (unitStart : Bool) (payload : Bytes) : List Event :=
  if unitStart || assembly.started then
    (if unitStart then pendingEvents assembly.data else []) ++
      (if isComplete (joined assembly unitStart payload) then [.unit (joined assembly unitStart payload).toList]
      else [])
  else []

def packetEvents (muxer : Muxer) (packet : Packet) : List Event :=
  muxer.referenceEvents packet ++
    match muxer.assembly? packet.pid, packet.payload with
    | some assembly, some payload => payloadEvents assembly packet.unitStart payload
    | _, _ => []

def finishEvents (muxer : Muxer) : List Event :=
  (muxer.assemblies.flatMap fun assembly => pendingEvents assembly.data) ++ [.ended]

end Muxer

/-- What a muxer is asked to do. It can be finished at any time, and goes on with what comes after that. -/
inductive Request where
  | call (call : Call)
  | finish

namespace Muxer

def serve (muxer : Muxer) : Request → Bytes × Muxer
  | .call call => muxer.call call
  | .finish => muxer.finish

def serveAll (muxer : Muxer) : List Request → Bytes × Muxer
  | [] => ([], muxer)
  | request :: requests =>
    let (front, muxer) := muxer.serve request
    let (rest, muxer) := muxer.serveAll requests
    (front ++ rest, muxer)

def events (muxer : Muxer) : Request → List Event
  | .call (.setProgram _) => []
  | .call (.pushPacket packet) => muxer.packetEvents packet
  | .finish => muxer.finishEvents

def log (muxer : Muxer) : List Request → List Event
  | [] => []
  | request :: requests => muxer.events request ++ (muxer.serve request).2.log requests

/-- What holds of each event and of what comes of it, and of one operation behind another if it holds of both. -/
structure EventInvariant (holds : Muxer → List Event → Bytes × Muxer → Prop) : Prop where
  still : ∀ {muxer next : Muxer}, next.clock = muxer.clock → next.clockSeen = muxer.clockSeen →
    holds muxer [] ([], next)
  trans : ∀ {muxer next last : Muxer} {events more : List Event} {output rest : Bytes},
    holds muxer events (output, next) → holds next more (rest, last) →
    holds muxer (events ++ more) (output ++ rest, last)
  reference : ∀ (muxer : Muxer) {packet : Packet} {base : Nat}, packet.clockBase = some base →
    holds muxer [.reference base] ([], { muxer with clock := max muxer.clock base, clockSeen := true })
  unit : ∀ (muxer : Muxer) (data : Bytes), holds muxer [.unit data] (muxer.emit data)
  ended : ∀ muxer : Muxer, holds muxer [.ended] (endCode, muxer)

namespace EventInvariant

variable {holds : Muxer → List Event → Bytes × Muxer → Prop} (keeps : EventInvariant holds) (muxer : Muxer)
include keeps

theorem nothing : holds muxer [] ([], muxer) :=
  keeps.still rfl rfl

theorem replace {muxer : Muxer} {events : List Event} {result : Bytes × Muxer} (held : holds muxer events result)
    (assemblies : List Assembly) : holds muxer events (result.1, { result.2 with assemblies }) := by
  have moved : holds muxer (events ++ []) (result.1 ++ [], { result.2 with assemblies }) :=
    keeps.trans held (keeps.still rfl rfl)
  rw [List.append_nil, List.append_nil] at moved
  exact moved

theorem pending (data : Packed) : holds muxer (pendingEvents data) (muxer.emitPending data) := by
  unfold emitPending pendingEvents
  split
  · exact keeps.nothing muxer
  · exact keeps.unit muxer data.toList

theorem trackClock (packet : Packet) :
    holds muxer (muxer.referenceEvents packet) ([], muxer.trackClock packet) := by
  unfold Muxer.trackClock referenceEvents
  split
  · cases carried : packet.clockBase with
    | none => exact keeps.nothing muxer
    | some base => exact keeps.reference muxer carried
  · exact keeps.nothing muxer

theorem pushPayload (assembly : Assembly) (unitStart : Bool) (payload : Bytes) :
    holds muxer (payloadEvents assembly unitStart payload) (muxer.pushPayload assembly unitStart payload) := by
  unfold payloadEvents
  split
  · next under =>
    rw [muxer.pushPayload_of_under ((Bool.or_eq_true ..).mp under)]
    have before : holds muxer (if unitStart then pendingEvents assembly.data else [])
        (if unitStart then muxer.emitPending assembly.data else ([], muxer)) := by
      split
      · exact keeps.pending muxer assembly.data
      · exact keeps.nothing muxer
    dsimp only
    by_cases complete : isComplete (joined assembly unitStart payload) = true
    · rw [if_pos complete, if_pos complete]
      exact keeps.replace (keeps.trans before (keeps.unit ..)) _
    · rw [if_neg complete, if_neg complete, List.append_nil]
      exact keeps.replace before _
  · next idle =>
    rw [Bool.or_eq_true, not_or, Bool.not_eq_true, Bool.not_eq_true] at idle
    have ignored : muxer.pushPayload assembly unitStart payload = ([], muxer) := by
      simp [Muxer.pushPayload, idle]
    rw [ignored]
    exact keeps.nothing muxer

theorem pushPacket (packet : Packet) : holds muxer (muxer.packetEvents packet) (muxer.pushPacket packet) := by
  have tracked := keeps.trackClock muxer packet
  unfold packetEvents Muxer.pushPacket
  dsimp only
  rw [assembly?_trackClock]
  cases muxer.assembly? packet.pid with
  | none =>
    rw [List.append_nil]
    exact tracked
  | some assembly =>
    cases packet.payload with
    | none =>
      rw [List.append_nil]
      exact tracked
    | some payload => exact keeps.trans tracked (keeps.pushPayload _ assembly packet.unitStart payload)

theorem finish : holds muxer muxer.finishEvents muxer.finish := by
  have fold (assemblies : List Assembly) {events : List Event} {state : Bytes × Muxer}
      (held : holds muxer events state) :
      holds muxer (events ++ assemblies.flatMap fun assembly => pendingEvents assembly.data)
        (assemblies.foldl
          (fun state assembly =>
            (state.1 ++ (emitPending state.2 assembly.data).1, (emitPending state.2 assembly.data).2))
          state) := by
    induction assemblies generalizing events state with
    | nil =>
      rw [List.flatMap_nil, List.append_nil]
      exact held
    | cons assembly later ih =>
      rw [List.flatMap_cons, ← List.append_assoc]
      exact ih (keeps.trans held (keeps.pending state.2 assembly.data))
  exact keeps.replace (keeps.trans (fold muxer.assemblies (keeps.nothing muxer)) (keeps.ended _)) _

theorem serve (request : Request) : holds muxer (muxer.events request) (muxer.serve request) := by
  cases request with
  | call call =>
    cases call with
    | setProgram program => exact keeps.still rfl rfl
    | pushPacket packet => exact keeps.pushPacket muxer packet
  | finish => exact keeps.finish muxer

theorem serveAll (requests : List Request) : holds muxer (muxer.log requests) (muxer.serveAll requests) := by
  induction requests generalizing muxer with
  | nil => exact keeps.nothing muxer
  | cons request later ih => exact keeps.trans (keeps.serve muxer request) (ih _)

end EventInvariant

variable {muxer : Muxer} {past : List Event}

end Muxer

end Pack

end MpegRecorder
