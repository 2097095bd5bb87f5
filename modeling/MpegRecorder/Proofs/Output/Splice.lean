import MpegRecorder.Proofs.Output.Frame
import MpegRecorder.Proofs.Output.Hunt
import MpegRecorder.Transport.Synthetic

/-!
Where a transport stream recording is spliced. Each flush searches what waits by itself, and what it finds
nothing in goes to the destination that is to be left. So the new destination begins with the first
packet that it may start with, but for those that were searched together with at most one other packet:
in a view of one or two packets nothing is found.
-/

namespace MpegRecorder.Output

open Storage Transport

def Operation.Packets : Operation → Prop
  | append data => Whole data
  | setPolicy kind _ _ => kind = .transport
  | _ => True

structure Spaced (output : Output) : Prop where
  transport : output.policy.output = .transport
  whole : Whole output.buffer.content

namespace Spaced

variable {output : Output} {medium : Medium}

theorem findCut (spaced : output.Spaced) {cut : Nat}
    (found : output.policy.findCut output.buffer.content = some cut) :
    ∃ count, cut = packetSize * count := by
  unfold CutPolicy.findCut at found
  split at found
  · exact ⟨0, (Option.some.inj found).symm⟩
  · exact ⟨0, (Option.some.inj found).symm⟩
  · rw [findPacketCut_of_whole spaced.whole, Option.map_eq_some_iff] at found
    obtain ⟨count, -, same⟩ := found
    exact ⟨count, same.symm⟩
  · next _ program =>
    have transport := spaced.transport
    rw [program] at transport
    cases transport

theorem flushAll (spaced : output.Spaced) (medium : Medium) : (output.flushAll medium).1.Spaced where
  transport := by
    rw [(frame_flushAll output medium).policy]
    exact spaced.transport
  whole := by
    have nothing : (output.flushAll medium).1.buffer.content = [] := by
      unfold Output.flushAll writeOut
      split <;> rfl
    rw [nothing]
    exact .nil

theorem moveAt (spaced : output.Spaced) (asked : output.request.isSome) (request : Request)
    (count : Nat) : (output.moveAt medium request (packetSize * count)).2.1.Spaced where
  transport := by
    rw [(frame_moveAt output medium request _).policy]
    exact spaced.transport
  whole := by
    rcases moveAt_outcome asked medium request (packetSize * count) with
      ⟨-, rest⟩ | ⟨-, nothing, -⟩
    · rw [rest]
      exact spaced.whole.drop count
    · rw [nothing]
      exact .nil

theorem tryCut (spaced : output.Spaced) (force : Bool) :
    (output.tryCut medium force).2.1.Spaced := by
  have asking (request : Request) : Spaced { output with request := some request } :=
    ⟨spaced.transport, spaced.whole⟩
  unfold Output.tryCut
  split
  · exact spaced
  · split
    · exact spaced
    · dsimp only
      split
      · next cut found =>
        obtain ⟨count, rfl⟩ := spaced.findCut found
        exact (asking _).moveAt rfl _ count
      · split
        · exact (asking _).moveAt rfl _ 0
        · exact (asking _).flushAll medium

theorem flush (spaced : output.Spaced) (medium : Medium) : (output.flush medium).1.Spaced := by
  unfold Output.flush
  split
  · exact spaced.tryCut false
  · exact spaced.flushAll medium

theorem perform (spaced : output.Spaced) {operation : Operation} (packets : operation.Packets)
    (medium : Medium) : (operation.perform (output, medium)).1.Spaced := by
  cases operation with
  | append data =>
    by_cases full : output.buffer.remaining < data.length
    · have flushed := spaced.flush medium
      rw [Operation.perform, append_of_full full]
      refine ⟨flushed.transport, ?_⟩
      simp only [Buffer.extend, Buffer.content_makeRoom]
      exact flushed.whole.append packets
    · rw [Operation.perform, append_of_room full]
      exact ⟨spaced.transport, spaced.whole.append packets⟩
  | flush => exact spaced.flush medium
  | startSwitch name token =>
    simp only [Operation.perform, startSwitch]
    split
    · exact spaced
    · have asking : Spaced { output with request := some ⟨name, token, 0⟩ } :=
        ⟨spaced.transport, spaced.whole⟩
      exact asking.tryCut false
  | forceSwitch => exact spaced.tryCut true
  | awaitSwitch =>
    simp only [Operation.perform, awaitSwitch]
    split
    · exact spaced
    · exact spaced.tryCut true
  | setPolicy kind family videoPid => exact ⟨packets, spaced.whole⟩
  | setRingLimit limit => exact ⟨spaced.transport, spaced.whole⟩
  | detach =>
    simp only [Operation.perform, detach]
    split
    · exact ⟨spaced.transport, spaced.whole⟩
    · exact spaced

theorem run (spaced : output.Spaced) {operations : List Operation}
    (packets : ∀ operation ∈ operations, operation.Packets) (medium : Medium) :
    (run operations (output, medium)).1.Spaced := by
  induction operations generalizing output medium with
  | nil => exact spaced
  | cons operation rest ih =>
    have next := spaced.perform (packets operation (List.mem_cons_self ..)) medium
    exact ih next (fun other member => packets other (List.mem_cons_of_mem _ member)) _

end Spaced

theorem whole_data {operation : Operation} (packets : operation.Packets) : Whole operation.data := by
  cases operation with
  | append data => exact packets
  | _ => exact .nil

theorem whole_flatten {views : List Bytes} (whole : ∀ view ∈ views, Whole view) :
    Whole views.flatten ∧ packets views.flatten = views.flatMap packets := by
  induction views with
  | nil => exact ⟨.nil, packets_nil⟩
  | cons view later ih =>
    obtain ⟨rest, same⟩ := ih fun other member => whole other (List.mem_cons_of_mem _ member)
    have first := whole view (List.mem_cons_self ..)
    rw [List.flatten_cons, List.flatMap_cons, ← same]
    exact ⟨first.append rest, first.packets_append _⟩

namespace Hunt

variable {hunt : Hunt} {earlier : List Bytes} {last : Bytes} {count : Nat} {total : Bytes}
  {state : Output × Medium}

/-- The first of all packets that may be entered is found, unless one was searched too early. -/
theorem Moved.first_iff (moved : hunt.Moved earlier last count total state) :
    (packets total).findIdx? (enters hunt.family hunt.videoPid) =
        some ((packets earlier.flatten).length + count)
      ↔ ∀ view ∈ earlier, ∀ packet ∈ packets view,
        enters hunt.family hunt.videoPid packet = false := by
  obtain ⟨rest, same⟩ := moved.searched
  obtain ⟨whole, found⟩ := moved.found
  obtain ⟨before, each⟩ := whole_flatten fun view member => (moved.missed view member).1
  have index : (packets last).findIdx? (enters hunt.family hunt.videoPid) = some count := by
    unfold firstEntry at found
    split at found
    · cases found
    · exact found
  have split : packets total = packets earlier.flatten ++ (packets last ++ packets rest) := by
    rw [← same, List.append_assoc, before.packets_append, whole.packets_append]
  have none_iff : (packets earlier.flatten).findIdx? (enters hunt.family hunt.videoPid) = none ↔
      ∀ view ∈ earlier, ∀ packet ∈ packets view,
        enters hunt.family hunt.videoPid packet = false := by
    rw [List.findIdx?_eq_none_iff, each]
    constructor
    · intro clear view member packet inside
      exact clear packet (List.mem_flatMap.mpr ⟨view, member, inside⟩)
    · intro clear packet member
      obtain ⟨view, there, inside⟩ := List.mem_flatMap.mp member
      exact clear view there packet inside
  rw [← none_iff, split, List.findIdx?_append, List.findIdx?_append, index]
  cases early : (packets earlier.flatten).findIdx? (enters hunt.family hunt.videoPid) with
  | none => simp [Nat.add_comm]
  | some place =>
    have inside := (List.findIdx?_eq_some_iff_getElem.mp early).1
    simp only [Option.some_or, Option.some.injEq, reduceCtorEq, iff_false]
    omega

end Hunt

def hunt (state : Output × Medium) (destination : Destination) (family : Elementary.Family)
    (videoPid : UInt16) (name : String) (token : UInt32) : Hunt where
  family := family
  videoPid := videoPid
  name := name
  token := token
  old := ⟨state.1.ring, state.1.counters, destination, state.2.storage⟩
  opener := state.1.opener
  limit := state.1.scanLimit

theorem hunt_searching {output : Output} (medium : Medium) {destination : Destination}
    {family : Elementary.Family} {videoPid : UInt16} (spaced : output.Spaced)
    (isOpen : output.destination = some destination) (known : output.policy.family = some family)
    (video : output.policy.videoPid = some videoPid) (name : String) (token : UInt32) :
    (hunt (output, medium) destination family videoPid name token).Searching []
      output.buffer.content ({ output with request := some ⟨name, token, 0⟩ }, medium) where
  policy := by
    funext view
    simp only [CutPolicy.findCut, known, video, spaced.transport]
    rfl
  opener := rfl
  limit := rfl
  asked := rfl
  handed := ⟨destination, isOpen, rfl⟩
  missed := nofun
  whole := spaced.whole
  complete := rfl

theorem startSwitch_taken {output : Output} {medium : Medium} {name : String} {token : UInt32}
    (taken : (output.startSwitch medium name token).1 = true) :
    let asking : Output := { output with request := some ⟨name, token, 0⟩ }
    let operation := Operation.startSwitch name token
    output.request = none ∧ operation.perform (output, medium) = asking.flush medium
      ∧ operation.events (output, medium) = asking.flushEvents medium
      ∧ operation.viewed (output, medium) = asking.viewed := by
  have accepts : (output.closed || output.request.isSome || output.path == name) = false := by
    rw [startSwitch] at taken
    split at taken
    · cases taken
    · next accepts => exact Bool.eq_false_iff.mpr accepts
  have idle : output.request = none := by
    simp only [Bool.or_eq_false_iff, Option.isSome_eq_false_iff, Option.isNone_iff_eq_none] at accepts
    exact accepts.1.2
  refine ⟨idle, ?_, ?_, ?_⟩
  · simp only [Operation.perform, startSwitch, accepts, Bool.false_eq_true, if_false, flush,
      Option.isSome_some, if_true]
  · simp only [Operation.events, accepts, Bool.false_eq_true, if_false, flushEvents,
      Option.isSome_some, if_true]
  · simp only [Operation.viewed, accepts, Bool.false_eq_true, if_false]

variable {φ : Type} {family : Elementary.Family} {videoPid : UInt16}

/--
What becomes of a request to move a transport stream recording that is given whole packets. Either
nothing was found in the views that were searched, or the recording is spliced at the first packet that a
view of three packets or more shows. That is the first of all packets that the new destination may begin
with exactly when none of them was searched before, in a view of one or two packets.
-/
theorem splice_of_request (setup : Session.Setup φ) (recording : Nat) (medium : Medium)
    (before operations : List Operation) (name : String) (token : UInt32)
    (transport : setup.output = .transport)
    (given : ∀ operation ∈ before ++ operations, operation.Packets)
    (feeding : ∀ operation ∈ operations, operation.Feeds) :
    let state := run before (setup.newOutput recording, medium)
    let asks := .startSwitch name token :: operations
    let views := along Operation.viewed asks state
    let total := state.1.buffer.content ++ appended operations
    let now := run asks state
    state.1.policy.family = some family → state.1.policy.videoPid = some videoPid →
      (state.1.startSwitch state.2 name token).1 = true →
      (∀ name token, .refused name token ∉ along Operation.events asks state) →
      views.flatten.length ≤ state.1.scanLimit →
      ∃ destination, state.1.destination = some destination
        ∧ let hunt := hunt state destination family videoPid name token
          (hunt.Searching views total now
            ∨ ∃ earlier last count, views = earlier ++ [last]
              ∧ hunt.Moved earlier last count total now
              ∧ ((packets total).findIdx? (enters family videoPid) =
                  some ((packets earlier.flatten).length + count)
                ↔ ∀ view ∈ earlier, ∀ packet ∈ packets view,
                  enters family videoPid packet = false)
              ∧ (state.1.ring.limit = 0 → state.2.storage.Ready destination →
                ∀ current behaviour, now.1.destination = some current →
                now.2.storage.behaviour? current.file = some behaviour → behaviour.Accepts →
                current.file ≠ destination.file →
                let front := earlier.flatten ++ last.take (packetSize * count)
                now.2.storage.content destination.file =
                    state.2.storage.content destination.file ++ front
                  ∧ front ++ (now.2.storage.content current.file ++ now.1.buffer.content)
                    = total)) := by
  intro state asks views total now known video taken granted within
  have start : Spaced (setup.newOutput recording) := ⟨transport, .nil⟩
  have spaced : state.1.Spaced := start.run
    (fun operation member => given operation (List.mem_append_left _ member)) medium
  obtain ⟨idle, performs, happens, searches⟩ := startSwitch_taken taken
  obtain ⟨destination, isOpen⟩ : ∃ destination, state.1.destination = some destination := by
    cases there : state.1.destination with
    | some destination => exact ⟨destination, rfl⟩
    | none =>
      have asked := (stranded_of_shut setup recording medium before there).asked
      rw [idle] at asked
      cases asked
  have hunting := hunt_searching state.2 spaced isOpen known video name token
  -- From here on it is a run that begins with a flush.
  let asking : Output × Medium := ({ state.1 with request := some ⟨name, token, 0⟩ }, state.2)
  have runs : now = run (.flush :: operations) asking := congrArg (run operations) performs
  have events : along Operation.events asks state =
      along Operation.events (.flush :: operations) asking := by
    rw [along, along, performs, happens]
    rfl
  have viewing : views = along Operation.viewed (.flush :: operations) asking := by
    simp only [views, asks]
    rw [along, along, performs, searches]
    rfl
  have feeds : ∀ operation ∈ .flush :: operations, operation.Feeds := by
    intro operation member
    rcases List.mem_cons.mp member with rfl | later
    · trivial
    · exact feeding operation later
  have whole : ∀ operation ∈ .flush :: operations, Whole operation.data := by
    intro operation member
    rcases List.mem_cons.mp member with rfl | later
    · exact .nil
    · exact whole_data (given operation (List.mem_append_right _ later))
  rw [events] at granted
  rw [viewing] at within
  have outcome := hunting.run feeds whole granted within
  rw [List.nil_append, ← viewing, ← runs] at outcome
  refine ⟨destination, isOpen, outcome.imp_right ?_⟩
  rintro ⟨earlier, last, count, parted, moved⟩
  refine ⟨earlier, last, count, parted, moved, moved.first_iff, ?_⟩
  intro off ready current behaviour there behaves accepts apart
  exact moved.contents off ready there behaves accepts apart

def hastySetup : Session.Setup Unit where
  destination := ⟨0, 0, "first.ts"⟩
  factory := ()
  opener := .healthy
  output := .transport
  capture := .other
  delivery := .unknown
  tuning := .automatic
  config := { Config.standard with writeBuffer := 3 * packetSize }
  registered := false

def hastyMedium : Medium :=
  ⟨((Storage.empty []).addFile "first.ts" .healthy).2, .empty⟩

def hastyPackets : List Bytes :=
  ((Synthetic.empty.h264Intra.videoPackets 1).h264Intra.videoPackets 1).packets.reverse

def hastyBefore : List Operation :=
  [.setPolicy .transport (some .h264) (some 0x100), .append (hastyPackets.take 1).flatten]

def hastyAfter : List Operation :=
  [.append (hastyPackets.drop 1).flatten, .flush]

def hasty : Output × Medium :=
  run hastyBefore (hastySetup.newOutput 0, hastyMedium)

def hastyNow : Output × Medium :=
  run (.startSwitch "second.ts" 0 :: hastyAfter) hasty

theorem hasty_aligned : Aligned hastyPackets := by
  have each : (hastyPackets.all fun packet =>
      packet.length == packetSize && packet.head? == some syncByte) = true := by decide +kernel
  intro packet member
  have both := List.all_eq_true.mp each packet member
  rw [Bool.and_eq_true, beq_iff_eq, beq_iff_eq] at both
  exact both

set_option maxRecDepth 4000 in
/-- The first entry waits alone and is passed over, so the recording is spliced at the second. -/
theorem splice_of_request_hasty :
    (hasty.1.startSwitch hasty.2 "second.ts" 0).1 = true
      ∧ along Operation.viewed (.startSwitch "second.ts" 0 :: hastyAfter) hasty =
        [(hastyPackets.take 1).flatten, (hastyPackets.drop 1).flatten]
      ∧ hastyNow.2.storage.content 0 = (hastyPackets.take 2).flatten
      ∧ hastyNow.2.storage.content 1 = (hastyPackets.drop 2).flatten := by
  have front : Whole (hastyPackets.take 1).flatten :=
    ⟨_, fun packet member => hasty_aligned packet (List.mem_of_mem_take member), rfl⟩
  have back : Whole (hastyPackets.drop 1).flatten := ⟨_, hasty_aligned.drop 1, rfl⟩
  have given : ∀ operation ∈ hastyBefore ++ hastyAfter, operation.Packets := by
    simp only [hastyBefore, hastyAfter, List.cons_append, List.nil_append, List.forall_mem_cons]
    exact ⟨rfl, front, back, trivial, nofun⟩
  have feeding : ∀ operation ∈ hastyAfter, operation.Feeds := by
    simp [hastyAfter, Operation.Feeds]
  have taken : (hasty.1.startSwitch hasty.2 "second.ts" 0).1 = true := by decide +kernel
  have views : along Operation.viewed (.startSwitch "second.ts" 0 :: hastyAfter) hasty =
      [(hastyPackets.take 1).flatten, (hastyPackets.drop 1).flatten] := by decide +kernel
  have granted : ∀ name token, Event.refused name token ∉
      along Operation.events (.startSwitch "second.ts" 0 :: hastyAfter) hasty := by
    have none : ((along Operation.events (.startSwitch "second.ts" 0 :: hastyAfter) hasty).all
        fun event => event matches .write .. | .rewind _ | .close _ | .opened ..) = true := by
      decide +kernel
    intro name token member
    exact Bool.false_ne_true (List.all_eq_true.mp none _ member)
  have within : (along Operation.viewed (.startSwitch "second.ts" 0 :: hastyAfter) hasty).flatten.length
      ≤ hasty.1.scanLimit := by
    have scanned : [(hastyPackets.take 1).flatten, (hastyPackets.drop 1).flatten].flatten.length = 752 := by
      decide +kernel
    have limit : hasty.1.scanLimit = 8388608 := by decide +kernel
    rw [views, scanned, limit]
    decide
  have known : hasty.1.policy.family = some .h264 := by decide +kernel
  have video : hasty.1.policy.videoPid = some 0x100 := by decide +kernel
  rw [hasty] at within known video
  obtain ⟨destination, isOpen, outcome⟩ := splice_of_request hastySetup 0 hastyMedium hastyBefore
    hastyAfter "second.ts" 0 rfl given feeding known video taken granted within
  have first : hasty.1.destination = some ⟨0, 0, "first.ts"⟩ := by decide +kernel
  rw [← hasty] at isOpen outcome
  rw [← hastyNow] at outcome
  rw [first] at isOpen
  cases isOpen
  have idle : hastyNow.1.request = none := by decide +kernel
  have nothing : hastyNow.1.buffer.content = [] := by decide +kernel
  rcases outcome with searching | ⟨earlier, last, count, parted, moved, -, contents⟩
  · have asked := searching.asked
    rw [idle] at asked
    cases asked
  · have joined : [(hastyPackets.take 1).flatten] ++ [(hastyPackets.drop 1).flatten] =
        earlier ++ [last] := views.symm.trans parted
    obtain ⟨rfl, rest⟩ := List.append_inj' joined rfl
    cases rest
    have found : firstEntry .h264 0x100 (hastyPackets.drop 1).flatten = some 1 := by decide +kernel
    cases Option.some.inj (moved.found.2.symm.trans found)
    have ready : hasty.2.storage.Ready ⟨0, 0, "first.ts"⟩ :=
      ⟨.new .healthy, by with_unfolding_all rfl, Behaviour.healthy_accepts, rfl⟩
    have behaves : hastyNow.2.storage.behaviour? 1 = some .healthy := by with_unfolding_all rfl
    obtain ⟨old, new⟩ := contents (by decide +kernel) ready ⟨1, 376, "second.ts"⟩ .healthy
      (by decide +kernel) behaves Behaviour.healthy_accepts (by decide)
    have before : hasty.2.storage.content 0 = [] := by decide +kernel
    have parts : [(hastyPackets.take 1).flatten].flatten
        ++ (hastyPackets.drop 1).flatten.take (packetSize * 1) = (hastyPackets.take 2).flatten := by
      decide +kernel
    have total : hasty.1.buffer.content ++ appended hastyAfter =
        (hastyPackets.take 2).flatten ++ (hastyPackets.drop 2).flatten := by decide +kernel
    rw [before, List.nil_append, parts] at old
    rw [nothing, List.append_nil, parts, total] at new
    exact ⟨taken, views, old, List.append_cancel_left new⟩

/-- The first packet that waits may be entered, but the new destination begins with a later one. -/
theorem entry_passed_over :
    (hasty.1.startSwitch hasty.2 "second.ts" 0).1 = true
      ∧ (packets (hasty.1.buffer.content ++ appended hastyAfter)).findIdx? (enters .h264 0x100) = some 0
      ∧ hastyNow.1.request = none ∧ hastyNow.1.buffer.content = []
      ∧ hastyNow.2.storage.content 0 = (hastyPackets.take 2).flatten
      ∧ hastyNow.2.storage.content 1 = (hastyPackets.drop 2).flatten := by
  refine ⟨?_, ?_, ?_, ?_, ?_, ?_⟩ <;> decide +kernel

end MpegRecorder.Output
