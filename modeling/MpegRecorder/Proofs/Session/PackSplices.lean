import MpegRecorder.Proofs.Output.PackCut
import MpegRecorder.Proofs.Session.FirstUnit
import MpegRecorder.Proofs.Session.PacketSplices

/-!
Program streams are handed over in packs, and moved at the start of a pack or at what looks like it. As long as
no pack carries a start code, all files are packs in full; a pack that carries one may be torn apart there.
-/

namespace MpegRecorder

open Output (Act Granted Operation HandedOver)
open Pack

namespace Session

/--
A session that comes to record a program stream hands it over pack by pack. If no pack carries a start code,
what waits and every file that was written are packs in full at all times, with the end code behind them once
that was handed over. Whatever packs carry, as long as no move is refused, whole packs wait, and a move parts
them at the start of one of them or at a start code inside of one. An opener that grants all that is asked
refuses none.
-/
theorem packs_parted (setup : Setup Factory) (valid : setup.config.Valid) (plain : setup.factory = .mpeg)
    (recording : Nat) (medium : Medium) (opens : setup.opener.Faultless) (stored : medium.storage.Faultless)
    (ready : medium.storage.Ready setup.destination)
    (fresh : medium.storage.content setup.destination.file = []) :
    ∃ session started, start setup recording medium = .ok (session, started) ∧ ∀ calls : List Call,
      let ended := run calls (session, started)
      let all := acts calls (session, started)
      let first := (session.output, started)
      outlet ended = Act.after all first
        ∧ (ended.1.params.output = .program → ∀ earlier later, all = earlier ++ later →
          let now := Act.after earlier first
          let files := setup.destination.file :: Act.files earlier first
          (Act.HandsPlain earlier →
            (Closed WellFormed now.1.buffer.content ∧
              ∀ id ∈ files, Closed WellFormed (now.2.storage.content id))
            ∧ ((∀ data, .ask (.append data) ∈ earlier → Row WellFormed data) →
              Row WellFormed now.1.buffer.content ∧
                ∀ id ∈ files, Row WellFormed (now.2.storage.content id)))
          ∧ (setup.opener.Grants → Granted (Act.history earlier first))
          ∧ (Granted (Act.history earlier first) → ∀ operation rest, later = .ask operation :: rest →
            let next := operation.perform now
            now.1.switches < next.1.switches →
            ∃ packs tail cut id, packs.flatten ++ tail = now.1.buffer.content ∧
              (∀ pack ∈ packs, WellFormed pack) ∧ (tail = [] ∨ tail = endCode) ∧
              Parting packs cut ∧ HandedOver cut now next id)) := by
  obtain ⟨session, started, opened, output, begun, recorded⟩ :=
    start_recorded setup valid plain recording medium opens stored ready fresh
  refine ⟨session, started, opened, fun calls => ?_⟩
  obtain ⟨recorded, -⟩ := recorded calls
  intro ended all first
  refine ⟨outlet_run calls (session, started), fun format earlier later parts => ?_⟩
  have format : (run calls (session, started)).1.params.output = .program := format
  rw [format] at recorded
  have front := Act.recorded_of_front recorded parts
  intro now files
  refine ⟨fun handed => ⟨?_, fun rows => ?_⟩, fun grants => ?_, fun granted => ?_⟩
  · have portioned := (begun .program (Row Plain) .nil).run (fun policy aims => Output.parts_program aims)
      (front.mono fun data member => ⟨handed.row member, fun _ => handed data member⟩)
    have whole {data : Bytes} (closed : Closed Plain data) : Closed WellFormed data :=
      closed.mono fun _ plain => plain.wellFormed
    exact ⟨whole portioned.portions.waiting, fun id member => whole (portioned.portions.held id member)⟩
  · have portioned := (begun .program (Row Plain) .nil).run
      (fun policy aims => ⟨(Output.parts_program aims).1, (Output.parts_program aims).1⟩)
      (front.mono fun data member => ⟨handed.row member, fun _ => handed.row member (rows data member)⟩)
    have whole {data : Bytes} (row : Row Plain data) : Row WellFormed data :=
      row.mono fun _ plain => plain.wellFormed
    exact ⟨whole portioned.portions.waiting, fun id member => whole (portioned.portions.held id member)⟩
  · have opener : session.output.opener.Grants := output ▸ grants
    exact Act.granted_history earlier opener
  · have start := begun .program (Row WellFormed) .nil
    have backlog := Output.Backlog.run ⟨start.toGoing, start.portions.waiting⟩ (Output.joins_row _)
      (Output.joins_closed _) (front.mono fun data _ => ⟨id, fun last => last.closed⟩) granted
    intro operation rest next after moved
    exact backlog.parting moved

/-- Four packets are a unit, and an entry is searched for within forty bytes of the start of a pack. -/
def narrowSetup : Setup Factory :=
  { promptSetup with
    opener := .healthy
    output := .program
    config := { Config.standard with
      maxTransfer := 4 * 188, initialDetection := 4 * 188, maxDetection := 4 * 188, packWindow := 40 } }

theorem narrow_valid : narrowSetup.config.Valid := by decide

theorem narrow_grants : narrowSetup.opener.Grants :=
  fun _ _ => ⟨.healthy, rfl, Storage.Behaviour.healthy_accepts⟩

def shortUnit (streamId : UInt8) (payload : Bytes) : Bytes :=
  let rest := 0x80 :: 0x00 :: 0x00 :: payload
  Elementary.Pes.fixedPart streamId rest.length ++ rest

def stuffed (unit : Bytes) : Bytes :=
  [UInt8.ofNat (183 - unit.length), 0x00] ++ List.replicate (182 - unit.length) 0xFF ++ unit

def narrowCapture (sound : Bytes) : Bytes :=
  (((Transport.Synthetic.empty.tables .mpeg2Video).packet Transport.Synthetic.audioPid true 0x03
    (stuffed (shortUnit 0xC0 sound))).packet Transport.Synthetic.videoPid true 0x03
      (stuffed (shortUnit 0xE0 [0x00, 0x00, 0x01, 0xB3]))).bytes

def soundPack (sound : Bytes) : Bytes :=
  Muxer.pack 0 (shortUnit 0xC0 sound)

def entryPack : Bytes :=
  Muxer.pack 0 (shortUnit 0xE0 [0x00, 0x00, 0x01, 0xB3])

def quiet : Bytes :=
  [0xAA, 0xAA, 0xAA, 0xAA]

def sounds : List Bytes :=
  [quiet, startCode]

theorem narrow_engine : ∀ sound ∈ sounds,
    let analysed := (Engine.analyse (MpegEngine.new narrowSetup.params) (narrowCapture sound)).2
    Engine.container? analysed =
        some ⟨.program, some 1, some ⟨.mpeg2Video, 0x100⟩, [⟨.mpeg1Audio, 0x101⟩]⟩ ∧
      (MpegEngine.remux analysed (narrowCapture sound)).1 = [.write (soundPack sound ++ entryPack)] := by
  decide +kernel

def narrowActs (sound : Bytes) : List Act :=
  [.ask (.setPolicy .program (some .mpeg2) (some 0x100)), .accept,
    .ask (.append (soundPack sound ++ entryPack))]

def narrowCalls (sound : Bytes) : List Call :=
  [.feed (narrowCapture sound), .startSwitch "second.ps" 0]

theorem narrow_acts {session : Session Factory (MpegEngine ⊕ ScriptedEngine)} {started : Medium}
    (opened : start narrowSetup 0 lateMedium = .ok (session, started)) {sound : Bytes}
    (member : sound ∈ sounds) :
    acts (narrowCalls sound) (session, started) = narrowActs sound ++ [.ask (.startSwitch "second.ps" 0)] ∧
      (run (narrowCalls sound) (session, started)).1.params.output = .program ∧
      (session.output, started) = (narrowSetup.newOutput 0, lateMedium) := by
  have sizes : ∀ sound ∈ sounds, (narrowCapture sound).length = 4 * 188 ∧
      (narrowCapture sound).head? = some Transport.syncByte := by
    decide +kernel
  obtain ⟨whole, synced⟩ := sizes sound member
  obtain ⟨found, writes⟩ := narrow_engine sound member
  obtain ⟨unit, params, output⟩ := start_firstUnit rfl opened whole (Nat.le_of_eq whole) synced
  have carries : ¬ (session.params.output = .program ∧ Container.needsTransport
      ⟨.program, some 1, some ⟨.mpeg2Video, 0x100⟩, [⟨.mpeg1Audio, 0x101⟩]⟩ = true) :=
    fun needed => absurd needed.2 (by decide)
  have emitted : (Engine.remux (Engine.analyse
      (.inl (.new narrowSetup.params) : MpegEngine ⊕ ScriptedEngine) (narrowCapture sound)).2
      (narrowCapture sound)).1 = [.write (soundPack sound ++ entryPack)] := writes
  obtain ⟨feeds, same⟩ := unit.acts found carries started
  rw [params, emitted] at feeds
  refine ⟨congrArg (· ++ [Act.ask (.startSwitch "second.ps" 0)]) feeds, ?_, ?_⟩
  · exact congrArg EngineParams.output (same.trans params)
  · exact Prod.ext output (Prod.mk.inj (Except.ok.inj opened)).2.symm

theorem wellFormed_short {streamId : UInt8} (some : Elementary.Pes.hasOptionalPart streamId = true)
    {payload : Bytes} (short : payload.length ≤ 4) :
    WellFormed (Muxer.pack 0 (shortUnit streamId payload)) := by
  have extent : Elementary.Pes.Extent streamId (3 + (0x00 : UInt8).toNat) (0x80 :: 0x00 :: 0x00 :: payload) :=
    .optional some (Nat.zero_le _)
  refine Muxer.wellFormed_pack 0 extent ?_
  simp only [List.length_cons, Elementary.Pes.fixedLength, packRoom, packSize, headerLength]
  omega

theorem plain_quiet : ∀ pack ∈ [soundPack quiet, entryPack], Plain pack := by
  have sound : Plain (soundPack quiet) :=
    ⟨wellFormed_short (by decide) (by decide), by unfold Imitates; decide +kernel⟩
  have entry : Plain entryPack :=
    ⟨wellFormed_short (by decide) (by decide), by unfold Imitates; decide +kernel⟩
  exact List.forall_mem_cons.mpr ⟨sound, List.forall_mem_singleton.mpr entry⟩

theorem handed_quiet {data : Bytes}
    (member : .ask (.append data) ∈ narrowActs quiet ++ [Act.ask (.startSwitch "second.ps" 0)]) :
    [soundPack quiet, entryPack].flatten = data := by
  have same : data = soundPack quiet ++ entryPack := by simpa [narrowActs] using member
  rw [same, List.flatten_cons, List.flatten_singleton]

theorem packs_parted_narrow :
    narrowSetup.config.Valid ∧ narrowSetup.factory = .mpeg ∧ narrowSetup.opener.Faultless ∧
      lateMedium.storage.Faultless ∧ lateMedium.storage.Ready narrowSetup.destination ∧
      lateMedium.storage.content narrowSetup.destination.file = [] ∧
      ∃ session started, start narrowSetup 0 lateMedium = .ok (session, started) ∧
        let first := (session.output, started)
        let now := Act.after (narrowActs quiet) first
        let next := Operation.perform (.startSwitch "second.ps" 0) now
        outlet (run (narrowCalls quiet) (session, started)) = next ∧
          Row WellFormed (next.2.storage.content 0) ∧ Row WellFormed (next.2.storage.content 1) ∧
          ∃ packs tail cut id, packs.flatten ++ tail = soundPack quiet ++ entryPack ∧
            Parting packs cut ∧ HandedOver cut now next id := by
  have opens : narrowSetup.opener.Faultless := fun _ _ planned =>
    Option.some.inj planned ▸ Storage.Behaviour.healthy_accepts
  obtain ⟨session, started, opened, all⟩ :=
    packs_parted narrowSetup narrow_valid rfl 0 lateMedium opens late_stored late_ready rfl
  refine ⟨narrow_valid, rfl, opens, late_stored, late_ready, rfl, session, started, opened, ?_⟩
  obtain ⟨acts, format, begins⟩ := narrow_acts opened (List.mem_cons_self ..)
  obtain ⟨same, parted⟩ := all (narrowCalls quiet)
  rw [acts, begins] at same parted
  have handed : Act.HandsPlain (narrowActs quiet ++ [.ask (.startSwitch "second.ps" 0)]) := fun data member =>
    ⟨_, [], (List.append_nil _).trans (handed_quiet member), plain_quiet, .inl rfl⟩
  have rows (data : Bytes)
      (member : .ask (.append data) ∈ narrowActs quiet ++ [Act.ask (.startSwitch "second.ps" 0)]) :
      Row WellFormed data :=
    ⟨_, handed_quiet member, fun pack there => (plain_quiet pack there).wellFormed⟩
  have whole := ((parted format _ [] (List.append_nil _).symm).1 handed).2 rows
  rw [Act.after_append] at same whole
  obtain ⟨-, refuses, parts⟩ := parted format (narrowActs quiet) _ rfl
  rw [begins]
  obtain ⟨packs, tail, cut, id, waits, -, -, parting, handover⟩ :=
    parts (refuses narrow_grants) _ _ rfl (by decide +kernel)
  refine ⟨same, whole.2 0 (by decide +kernel), whole.2 1 (by decide +kernel),
    packs, tail, cut, id, ?_, parting, handover⟩
  exact waits.trans (by decide +kernel)

theorem not_closed_torn : ¬ Closed WellFormed ((soundPack startCode).drop 23 ++ entryPack) := by
  rintro ⟨packs, tail, whole, all, ends⟩
  cases packs with
  | nil =>
    have size : tail.length = 31 := (congrArg List.length whole).trans (by decide +kernel)
    rcases ends with rfl | rfl <;> cases size
  | cons pack later =>
    obtain ⟨header, parsed, -⟩ := (all pack (List.mem_cons_self ..)).header
    obtain ⟨_, -, length⟩ := (all pack (List.mem_cons_self ..)).packet
    have front : pack.take headerLength = ((soundPack startCode).drop 23 ++ entryPack).take headerLength := by
      rw [← whole, List.flatten_cons, List.append_assoc, List.take_append_of_le_length (by omega)]
    have fails : (Header.parse (((soundPack startCode).drop 23 ++ entryPack).take headerLength)).toOption =
        none := by
      decide +kernel
    rw [← front, parsed] at fails
    cases fails

/-- Audio with the start code of a pack in it makes the move tear its pack apart. -/
theorem pack_torn :
    narrowSetup.config.Valid ∧ narrowSetup.factory = .mpeg ∧ narrowSetup.opener.Grants ∧
      lateMedium.storage.Faultless ∧ lateMedium.storage.Ready narrowSetup.destination ∧
      lateMedium.storage.content narrowSetup.destination.file = [] ∧
      ∃ session started, start narrowSetup 0 lateMedium = .ok (session, started) ∧
        let ended := run (narrowCalls startCode) (session, started)
        ended.1.params.output = .program ∧ ended.1.output.switches = 1 ∧
          WellFormed (soundPack startCode) ∧ WellFormed entryPack ∧
          ended.2.storage.content 0 = (soundPack startCode).take 23 ∧
          ended.2.storage.content 1 = (soundPack startCode).drop 23 ++ entryPack ∧
          ¬ Closed WellFormed (ended.2.storage.content 1) := by
  obtain ⟨session, started, opened⟩ :
      ∃ session started, start narrowSetup 0 lateMedium = .ok (session, started) :=
    ⟨_, _, rfl⟩
  refine ⟨narrow_valid, rfl, narrow_grants, late_stored, late_ready, rfl,
    session, started, opened, ?_⟩
  obtain ⟨acts, format, begins⟩ := narrow_acts opened (List.mem_cons_of_mem _ (List.mem_singleton_self _))
  have same := outlet_run (narrowCalls startCode) (session, started)
  rw [acts, outlet, outlet, begins] at same
  let torn := Act.after (narrowActs startCode ++ [.ask (.startSwitch "second.ps" 0)])
    (narrowSetup.newOutput 0, lateMedium)
  have output : (run (narrowCalls startCode) (session, started)).1.output = torn.1 := congrArg Prod.fst same
  have medium : (run (narrowCalls startCode) (session, started)).2 = torn.2 := congrArg Prod.snd same
  dsimp only
  rw [output, medium]
  have second : torn.2.storage.content 1 = (soundPack startCode).drop 23 ++ entryPack := by decide +kernel
  exact ⟨format, by decide +kernel, wellFormed_short (by decide) (by decide),
    wellFormed_short (by decide) (by decide), by decide +kernel, second, second ▸ not_closed_torn⟩

end Session

end MpegRecorder
