import MpegRecorder.Proofs.Output.PacketCut
import MpegRecorder.Proofs.Session.Correction
import MpegRecorder.Proofs.Session.FirstUnit
import MpegRecorder.Proofs.Session.Portions

/-!
Transport streams are handed over packet by packet. Whatever a session of the plain factory is fed and however
it is moved, what waits and every file that it writes are packets in full that can be read, and the file of a
move that found its splice point begins with a packet at which the video can be entered.
-/

namespace MpegRecorder

open Transport

namespace Output

theorem aligned_of_readable {all : List Bytes} (readable : ∀ packet ∈ all, Readable packet) :
    Aligned all := by
  intro packet member
  obtain ⟨read, parsed⟩ := readable packet member
  have whole := Packet.length_eq_of_parse parsed
  refine ⟨whole, ?_⟩
  unfold Packet.parse at parsed
  split at parsed
  · cases parsed
  · split at parsed
    · cases parsed
    · next synced =>
      cases packet with
      | nil => cases whole
      | cons byte rest => exact congrArg some (not_not.mp synced)

variable {all : List Bytes}

theorem parts_of_entry {family : Elementary.Family} {videoPid : UInt16} {cut : Nat} (aligned : Aligned all)
    (found : findPacketCut family videoPid all.flatten = some cut) :
    ∃ front packet behind, all = front ++ packet :: behind ∧ enters family videoPid packet = true ∧
      all.flatten.take cut = front.flatten ∧ all.flatten.drop cut = (packet :: behind).flatten := by
  rw [findPacketCut_of_whole ⟨all, aligned, rfl⟩, firstEntry, packets_flatten aligned] at found
  split at found
  · cases found
  · obtain ⟨index, first, rfl⟩ := Option.map_eq_some_iff.mp found
    obtain ⟨inside, entered, -⟩ := List.findIdx?_eq_some_iff_getElem.mp first
    obtain ⟨left, right⟩ := aligned.parted index
    refine ⟨all.take index, all[index], all.drop (index + 1), ?_, entered, left, ?_⟩
    · rw [List.getElem_cons_drop, List.take_append_drop]
    · rw [right, List.getElem_cons_drop]

theorem parts_transport {policy : CutPolicy} (aims : policy.Aims .transport) :
    Parts (Row Readable) (Row Readable) policy where
  empty := .nil
  covers := id
  append := .append
  parted := by
    rintro view cut ⟨all, rfl, readable⟩ found
    have none (zero : some 0 = some cut) :
        Row Readable (all.flatten.take cut) ∧ Row Readable (all.flatten.drop cut) := by
      cases zero
      exact ⟨.nil, all, rfl, readable⟩
    unfold CutPolicy.findCut at found
    split at found
    · exact none found
    · exact none found
    · obtain ⟨front, packet, behind, rfl, -, left, right⟩ :=
        parts_of_entry (aligned_of_readable readable) found
      obtain ⟨before, after⟩ := List.forall_mem_append.mp readable
      rw [left, right]
      exact ⟨⟨front, rfl, before⟩, packet :: behind, rfl, after⟩
    · next known kind =>
      rcases aims with transport | unknown
      · cases kind.symm.trans transport
      · cases known.symm.trans unknown

def Enters (family : Elementary.Family) (videoPid : UInt16) (data : Bytes) : Prop :=
  ∃ packet later read payload, packet ++ later = data ∧
    Packet.parse packet = .ok read ∧ read.pid = videoPid ∧
    read.unitStart = true ∧ read.transportError = false ∧ read.payload = some payload ∧
    (family.findIntra payload).isSome

theorem enters_of_entry {family : Elementary.Family} {videoPid : UInt16} {packet : Bytes}
    (entered : enters family videoPid packet = true) (later : Bytes) :
    Enters family videoPid (packet ++ later) := by
  obtain ⟨read, payload, starts⟩ := enters_iff.mp entered
  exact ⟨packet, later, read, payload, rfl, starts⟩

variable {state : Output × Medium} {visited : List Nat}

theorem Portioned.enters (portioned : Portioned .transport (Row Readable) (Row Readable) visited state)
    {operation : Operation} (unforced : ¬ operation.Forces)
    (moved : state.1.switches < (operation.perform state).1.switches)
    {family : Elementary.Family} {videoPid : UInt16} {request : Request}
    (known : state.1.policy.family = some family) (video : state.1.policy.videoPid = some videoPid)
    (asked : (operation.asking state.1).request = some request)
    (within : state.1.policy.findCut state.1.buffer.content = none →
      request.scanned + state.1.buffer.content.length ≤ state.1.scanLimit) :
    ∃ id, (operation.perform state).1.file? = some id ∧
      Enters family videoPid ((operation.perform state).2.storage.content id) := by
  obtain ⟨middle, force, leads⟩ := portioned.sound.leads operation
  obtain ⟨other, cut, id, waits, -, chosen, handover⟩ := leads.moves moved
  cases Option.some.inj (asked.symm.trans waits)
  have alike : (operation.asking state.1).buffer = state.1.buffer ∧
      (operation.asking state.1).policy = state.1.policy ∧
      (operation.asking state.1).scanLimit = state.1.scanLimit := by
    obtain ⟨request, same⟩ := operation.asking_eq state.1
    rw [same]
    exact ⟨rfl, rfl, rfl⟩
  obtain ⟨buffer, policy, limit⟩ := alike
  have kind : state.1.policy.output = .transport := by
    rcases portioned.aims with transport | unknown
    · exact transport
    · cases known.symm.trans unknown
  refine ⟨id, handover.file, ?_⟩
  rw [handover.content]
  -- What is neither forced nor past the limit moves at what the search found.
  rcases chosen with found | ⟨-, missed, forced | beyond⟩
  · have search : state.1.policy.findCut state.1.buffer.content =
        findPacketCut family videoPid state.1.buffer.content := by
      simp only [CutPolicy.findCut, known, kind, video]
    rw [buffer, policy, search] at found
    obtain ⟨all, whole, readable⟩ := portioned.portions.waiting
    rw [← whole] at found ⊢
    obtain ⟨front, packet, behind, -, entered, -, right⟩ :=
      parts_of_entry (aligned_of_readable readable) found
    rw [right]
    exact enters_of_entry entered behind.flatten
  · exact absurd (leads.forced forced) unforced
  · rw [buffer, policy] at missed
    rw [Request.after, buffer, limit] at beyond
    exact absurd (within missed) (Nat.not_le.mpr beyond)

end Output

namespace Session

open Output

/--
A session that comes to record a transport stream hands it over packet by packet. At all times what waits and
every file that was written are packets in full that can be read, and a move that is neither forced nor made
after a search in vain past the limit leads to a file that begins where the video can be entered.
-/
theorem packets_exact (setup : Setup Factory) (valid : setup.config.Valid) (plain : setup.factory = .mpeg)
    (recording : Nat) (medium : Medium) (opens : setup.opener.Faultless) (stored : medium.storage.Faultless)
    (ready : medium.storage.Ready setup.destination)
    (fresh : medium.storage.content setup.destination.file = []) :
    ∃ session started, start setup recording medium = .ok (session, started) ∧ ∀ calls : List Call,
      let ended := run calls (session, started)
      let all := acts calls (session, started)
      let first := (session.output, started)
      outlet ended = Act.after all first
        ∧ (setup.output = .transport → ended.1.params.output = .transport)
        ∧ (ended.1.params.output = .transport → ∀ earlier later, all = earlier ++ later →
          let now := Act.after earlier first
          Row Readable now.1.buffer.content
            ∧ (∀ id ∈ setup.destination.file :: Act.files earlier first,
              Row Readable (now.2.storage.content id))
            ∧ ∀ operation rest, later = .ask operation :: rest → ¬ operation.Forces →
              let next := operation.perform now
              now.1.switches < next.1.switches →
              ∀ family videoPid request, now.1.policy.family = some family →
                now.1.policy.videoPid = some videoPid → (operation.asking now.1).request = some request →
                (now.1.policy.findCut now.1.buffer.content = none →
                  request.scanned + now.1.buffer.content.length ≤ now.1.scanLimit) →
                ∃ id, next.1.file? = some id ∧ Enters family videoPid (next.2.storage.content id)) := by
  obtain ⟨session, started, opened, -, begun, recorded⟩ :=
    start_recorded setup valid plain recording medium opens stored ready fresh
  refine ⟨session, started, opened, fun calls => ?_⟩
  obtain ⟨recorded, stays⟩ := recorded calls
  intro ended all first
  refine ⟨outlet_run calls (session, started), stays, fun format earlier later parts => ?_⟩
  have format : (run calls (session, started)).1.params.output = .transport := format
  rw [format] at recorded
  have packets : Act.Recorded .transport (Row Readable) (Row Readable) all :=
    recorded.mono fun data _ => ⟨id, fun last => last.elim id fun program => by cases program.1⟩
  have portioned := (begun .transport (Row Readable) .nil).run
    (fun policy aims => ⟨parts_transport aims, parts_transport aims⟩) (Act.recorded_of_front packets parts)
  refine ⟨portioned.portions.waiting, portioned.portions.held, ?_⟩
  intro operation rest next unforced after moved family videoPid request known video asked within
  exact portioned.enters unforced moved known video asked within

theorem late_stored : lateMedium.storage.Faultless :=
  (Storage.faultless_empty []).addFile "late.ts" Storage.Behaviour.healthy_accepts

theorem late_ready : lateMedium.storage.Ready lateSetup.destination :=
  ⟨.new .healthy, rfl, Storage.Behaviour.healthy_accepts, rfl⟩

def entryPiece : Bytes :=
  ((Transport.Synthetic.empty.tables .h264).h264Intra).bytes

theorem entry_engine :
    let analysed := (Engine.analyse (MpegEngine.new promptSetup.params) entryPiece).2
    Engine.container? analysed =
        some ⟨.transport, some 1, some ⟨.h264, 0x100⟩, [⟨.mpeg1Audio, 0x101⟩]⟩ ∧
      (MpegEngine.remux analysed entryPiece).1 = [.write entryPiece] := by
  decide +kernel

def entryActs : List Act :=
  [.ask (.setPolicy .transport (some .h264) (some 0x100)), .accept, .ask (.append entryPiece)]

theorem fed_entry {session : Session Factory (MpegEngine ⊕ ScriptedEngine)} {started : Medium}
    (opened : start promptSetup 0 lateMedium = .ok (session, started)) :
    let fed := (session.feed started entryPiece).2
    let next := (fed.1.output.startSwitch fed.2 "second.ts" 0).2
    fed.1.output.policy.family = some .h264 ∧ fed.1.output.policy.videoPid = some 0x100 ∧
      ((Operation.startSwitch "second.ts" 0).asking fed.1.output).request = some ⟨"second.ts", 0, 0⟩ ∧
      fed.1.output.buffer.content.length = 564 ∧ fed.1.output.scanLimit = 8388608 ∧
      fed.1.output.switches < next.1.switches ∧ next.1.file? = some 1 ∧
      (next.2.storage.content 0).length = 376 := by
  have whole : entryPiece.length = 3 * 188 := by decide +kernel
  obtain ⟨unit, params, output⟩ := start_firstUnit rfl opened whole (Nat.le_of_eq whole) (by decide +kernel)
  have here : started = lateMedium := (Prod.mk.inj (Except.ok.inj opened)).2.symm
  have carries : ¬ (session.params.output = .program ∧ Container.needsTransport
      ⟨.transport, some 1, some ⟨.h264, 0x100⟩, [⟨.mpeg1Audio, 0x101⟩]⟩ = true) := by
    rw [params]
    exact fun needed => absurd needed.1 (by decide)
  have emitted : (Engine.remux (Engine.analyse
      (.inl (.new promptSetup.params) : MpegEngine ⊕ ScriptedEngine) entryPiece).2 entryPiece).1 =
        [.write entryPiece] :=
    entry_engine.2
  have feeds : (Call.feed entryPiece).acts session started = entryActs := by
    rw [(unit.acts entry_engine.1 carries started).1, emitted, params]
    rfl
  let led := Act.after entryActs (promptSetup.newOutput 0, lateMedium)
  have leads : outlet (session.feed started entryPiece).2 = led := by
    have performs := (Call.feed entryPiece).outlet_perform session started
    rw [feeds, output, here] at performs
    rw [here]
    exact performs
  have first : (session.feed started entryPiece).2.1.output = led.1 := (congrArg Prod.fst leads :)
  have second : (session.feed started entryPiece).2.2 = led.2 := (congrArg Prod.snd leads :)
  dsimp only
  rw [first, second]
  decide +kernel

/-- Two packets stay in the first file, and the second begins with the intra picture. -/
theorem packets_exact_prompt :
    promptSetup.config.Valid ∧ promptSetup.factory = .mpeg ∧ promptSetup.opener.Faultless ∧
      lateMedium.storage.Faultless ∧ lateMedium.storage.Ready promptSetup.destination ∧
      lateMedium.storage.content promptSetup.destination.file = [] ∧
      ∃ session started, start promptSetup 0 lateMedium = .ok (session, started) ∧
        let fed := (session.feed started entryPiece).2
        let next := (fed.1.output.startSwitch fed.2 "second.ts" 0).2
        Row Readable fed.1.output.buffer.content ∧ fed.1.output.buffer.content.length = 564 ∧
          (next.2.storage.content 0).length = 376 ∧ next.1.file? = some 1 ∧
          Enters .h264 0x100 (next.2.storage.content 1) := by
  obtain ⟨session, started, opened, all⟩ :=
    packets_exact promptSetup prompt_valid rfl 0 lateMedium trivial late_stored late_ready rfl
  refine ⟨prompt_valid, rfl, trivial, late_stored, late_ready, rfl, session, started, opened, ?_⟩
  obtain ⟨-, format, exact⟩ := all [.feed entryPiece, .startSwitch "second.ts" 0]
  have front : Act.after ((Call.feed entryPiece).acts session started) (session.output, started) =
      outlet (session.feed started entryPiece).2 :=
    ((Call.feed entryPiece).outlet_perform session started).symm
  obtain ⟨family, video, asked, waiting, limit, moved, file, old⟩ := fed_entry opened
  obtain ⟨packets, -, enters⟩ := exact (format rfl) ((Call.feed entryPiece).acts session started)
    [.ask (.startSwitch "second.ts" 0)] rfl
  rw [front] at packets enters
  have within : 0 + (outlet (session.feed started entryPiece).2).1.buffer.content.length ≤
      (outlet (session.feed started entryPiece).2).1.scanLimit := by
    simp only [outlet, waiting, limit]
    decide
  obtain ⟨id, new, entered⟩ := enters (.startSwitch "second.ts" 0) [] rfl (fun forces => forces) moved .h264
    0x100 _ family video asked fun _ => within
  cases Option.some.inj (new.symm.trans file)
  exact ⟨packets, waiting, old, file, entered⟩

end Session

end MpegRecorder
